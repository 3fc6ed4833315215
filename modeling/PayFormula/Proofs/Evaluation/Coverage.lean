import Mathlib
import PayFormula.Proofs.Evaluation.Ledger

/-!
# Dependencies Cover Every Run

A caller who supplies what the dependencies of a formula report has supplied whatever the formula
looks up.  This holds for every run, and not only for one that succeeds: for the lines of the trace,
every key that the formula begins to look up, the inquiries made, the hits in a map and the entries
of the ledger, and for the lookup that ended the run, be it that nothing was found or that what was
found would not do.
-/

namespace PayFormula

/-- A lookup is reported: by its key, or as one whose key only a run can tell. -/
def Dependencies.Reports (d : Dependencies) : Lookup → Prop
  | .variable key => key ∈ d.variableKeys
  | .keyed kind key => key ∈ d.keys kind ∨ Formula.dynamicKey ∈ d.keys kind

/-- Only a variable leaves a line that starts with the mark of variables. -/
theorem Event.eq_variableRead_of_traceLine? {event : Event} {rest : String}
    (h : event.traceLine? = some ("VAR[" ++ rest)) :
    ∃ key value, event = .variableRead key value := by
  have hhead : (event.traceLine?.map String.toList).bind List.head? = some 'V' := by
    rw [h]
    simp
  cases event with
  | inquired | sought | resolved => nomatch h
  | variableRead key value => exact ⟨key, value, rfl⟩
  | parameterRead origin => cases origin <;> simp [traceLine?, toString] at hhead
  | employeeParameterRead origin => cases origin <;> simp [traceLine?, toString] at hhead
  | groupSummed => simp [traceLine?, toString] at hhead
  | countryTaxed tax => cases tax <;> simp [traceLine?, CountryTax.functionName, toString] at hhead
  | tiersApplied => simp [traceLine?, toString] at hhead

namespace Formula

theorem keyOf_of_mayGive {formula : Formula} {key : Value} (h : formula.MayGive key) :
    keyOf formula = key.toText ∨ keyOf formula = dynamicKey := by
  unfold keyOf
  split
  · rw [h _ rfl]
    exact .inl rfl
  · exact .inr rfl

/-- Every lookup that a node stands for is reported. -/
theorem permits_reports (s : Surroundings) (formula : Formula) :
    formula.Permits s
      (.each fun event ↦ ∀ lookup, event.lookup? = some lookup →
        (Dependencies.ofFormula formula).Reports lookup)
      (fun fault ↦ ∀ lookup, fault.lookup? = some lookup →
        (Dependencies.ofFormula formula).Reports lookup) where
  plainEvent event h := List.forall_mem_singleton.2 fun lookup hlookup ↦ by simp [h] at hlookup
  plainFault fault h _ lookup hlookup := by simp [h] at hlookup
  variableEvent path hpath value := by
    refine List.forall_mem_singleton.2 fun lookup hlookup ↦ ?_
    obtain rfl := Option.some.inj hlookup
    exact Dependencies.mem_variableKeys_iff.2 ⟨path, hpath, rfl⟩
  variableFault path hpath fault h lookup hlookup := by
    obtain rfl := Option.some.inj (h.symm.trans hlookup)
    exact Dependencies.mem_variableKeys_iff.2 ⟨path, hpath, rfl⟩
  resolution kind first rest hcall key hkey run hrun := by
    have hreported : (Dependencies.ofFormula formula).Reports (.keyed kind key.toText) := by
      have hmember := Dependencies.mem_keys_iff.2 ⟨first, rest, hcall, rfl⟩
      unfold Dependencies.Reports
      rcases keyOf_of_mayGive hkey with hstatic | hdynamic
      · exact .inl (hstatic ▸ hmember)
      · exact .inr (hdynamic ▸ hmember)
    have htells (event : Event) (h : event.lookup? = some (.keyed kind key.toText)) :
        ∀ lookup, event.lookup? = some lookup →
          (Dependencies.ofFormula formula).Reports lookup := by
      intro lookup hlookup
      obtain rfl := Option.some.inj (h.symm.trans hlookup)
      exact hreported
    apply hrun.shows
    · intro event _ h
      exact List.forall_mem_singleton.2 (htells event h)
    · intro events hconcludes event hevent
      exact htells event (hconcludes.lookup?_eq event hevent)
    · rintro fault (⟨cause, rfl⟩ | h) lookup hlookup
      · nomatch hlookup
      · obtain rfl := Option.some.inj (h.symm.trans hlookup)
        exact hreported

/-- Whatever a run looks up is reported, be it told by a line about a variable, by another event, by
an entry of the ledger, or by a fault that no collaborator answered.  Among the events is one for
each key that a call begins to look up, even if the lookup fails.  Collaborators may answer as they
like. -/
theorem dependencies_cover_run (s : Surroundings) (formula : Formula) :
    let d := Dependencies.ofFormula formula
    let run := formula.eval s
    (∀ line ∈ run.journal.trace, ∀ rest, line = "VAR[" ++ rest →
      ∃ key ∈ d.variableKeys, ∃ value : String, line = s!"VAR[{key}] = {value}") ∧
    (∀ event ∈ run.events, ∀ lookup, event.lookup? = some lookup → d.Reports lookup) ∧
    (∀ key kind resolution, s.Resolves key kind resolution → ∀ journal,
      .sought kind key ∈ (resolution.on journal).2.events) ∧
    (∀ key usage, (key, usage) ∈ run.journal.ledger →
      ∃ named, Table.SameKey key named ∧ d.Reports (.keyed usage.kind named.toText)) ∧
    ∀ fault, run.outcome = .error fault → ∀ lookup, fault.lookup? = some lookup →
      d.Reports lookup ∨ s.sources.collaborators.FailLast [] run.events fault := by
  intro d run
  have hshows := eval_shows formula (permits_reports s formula)
  refine ⟨?_, hshows.holds, fun _ _ _ hresolves ↦ hresolves.sought_mem, ?_, ?_⟩
  · rintro line hline rest rfl
    have htrace : run.journal.trace = traceOf run.events := by
      rw [hshows.journal_eq, Journal.trace_recordAll]
      rfl
    rw [htrace] at hline
    obtain ⟨event, hevent, hshown⟩ := List.mem_filterMap.1 hline
    obtain ⟨key, value, rfl⟩ := Event.eq_variableRead_of_traceLine? hshown
    exact ⟨key, hshows.holds _ hevent _ rfl, value, (Option.some.inj hshown).symm⟩
  · intro key usage hentry
    obtain ⟨earlier, named, later, hsplit, hsame, -⟩ :=
      (keepsLast_eval s formula).resolved key usage hentry
    have hmember : (named, usage) ∈ resolutionsOf (formula.eval s).events := by
      simp [hsplit]
    rw [resolutionsOf_events] at hmember
    obtain ⟨event, hevent, husage⟩ := List.mem_filterMap.1 hmember
    exact ⟨named, hsame, hshows.holds event hevent _ (Event.lookup?_of_usage? husage)⟩
  · intro fault hfault lookup hlookup
    exact (hshows.fault hfault).imp_left fun h ↦ h lookup hlookup

/-- A variable is found, and a group whose member names no concept: both are reported, although the
run fails in the group. -/
theorem dependencies_cover_run_broken_member :
    let s : Surroundings := {
      context := { concepts := [(.text "base", .int 100)]
                   groups := [(.text "extras", .list [.map []])] } }
    let formula : Formula :=
      .binary .plus (.variable ["base"]) (.call "SUM_GROUP" [.text (.text "extras")])
    let d := Dependencies.ofFormula formula
    let run := formula.eval s
    (run.journal.trace = ["VAR[base] = 100"] ∧
      ∃ key ∈ d.variableKeys, ∃ value : String, "VAR[base] = 100" = s!"VAR[{key}] = {value}") ∧
    run.outcome = .error (.badData (.missingKey (.text "concept_code"))) ∧
    .sought .group (.text "extras") ∈ run.events ∧ d.Reports (.keyed .group "extras") := by
  intro s formula d run
  obtain ⟨hline, hevent, -⟩ := dependencies_cover_run s formula
  have htrace : run.journal.trace = ["VAR[base] = 100"] := by decide +kernel
  have hsought : .sought .group (.text "extras") ∈ run.events :=
    List.mem_cons_of_mem _ (List.mem_singleton_self _)
  exact ⟨⟨htrace, hline _ (htrace ▸ List.mem_singleton_self _) "base] = 100" rfl⟩, rfl, hsought,
    hevent _ hsought _ rfl⟩

end Formula

end PayFormula
