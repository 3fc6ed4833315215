import PayFormula.Evaluation.Event

/-!
# Runs

A run is a piece of work on a journal.  The journal tells what has happened so far, and holds the
trace and the ledger, which may have been begun by earlier work; each event is written into them at
the moment at which it happens.  A run ends with a result or with a fault, and what was written
until then stays.
-/

namespace PayFormula

/-! ## Journals -/

structure Journal where
  events : List Event := []
  trace : List String := []
  ledger : Ledger := []

namespace Journal

def inquiries (journal : Journal) : List Inquiry := inquiriesOf journal.events

/-- Write down one event. -/
def record (journal : Journal) (event : Event) : Journal where
  events := journal.events ++ [event]
  trace := journal.trace ++ event.traceLine?.toList
  ledger := event.usage?.elim journal.ledger fun (key, usage) ↦ journal.ledger.put key usage

end Journal

/-! ## Runs -/

def Run (α : Type) : Type := Journal → Except Fault α × Journal

namespace Run

variable {α β γ : Type}

/-- The outcome of a run on a journal, and the journal after it. -/
def on (run : Run α) (journal : Journal) : Except Fault α × Journal := run journal

def pure (a : α) : Run α := fun journal ↦ (.ok a, journal)

/-- Work that goes on with the result of other work, unless that failed. -/
def bind (run : Run α) (next : α → Run β) : Run β := fun journal ↦
  match run.on journal with
  | (.ok a, later) => (next a).on later
  | (.error fault, later) => (.error fault, later)

instance : Monad Run where
  pure := pure
  bind := bind

def fail (fault : Fault) : Run α := fun journal ↦ (.error fault, journal)

def ofExcept (result : Except Fault α) : Run α := fun journal ↦ (result, journal)

def emit (event : Event) : Run Unit := fun journal ↦ (.ok (), journal.record event)

/-- Make an inquiry and wait for the answer. -/
def inquire (collaborator : Collaborator) (inquiry : Inquiry) : Run Value := fun journal ↦
  (collaborator journal.inquiries inquiry, journal.record (.inquired inquiry))

/-! ## One after another -/

@[ext]
theorem ext {run₁ run₂ : Run α} (h : ∀ journal, run₁.on journal = run₂.on journal) : run₁ = run₂ :=
  funext h

theorem on_bind_of_ok {run : Run α} {journal later : Journal} {a : α}
    (h : run.on journal = (.ok a, later)) (next : α → Run β) :
    (run >>= next).on journal = (next a).on later := by
  change run.bind next journal = _
  simp only [bind, h]

theorem on_bind_of_error {run : Run α} {journal later : Journal} {fault : Fault}
    (h : run.on journal = (.error fault, later)) (next : α → Run β) :
    (run >>= next).on journal = (.error fault, later) := by
  change run.bind next journal = _
  simp only [bind, h]

theorem outcome_on_bind (run : Run α) (next : α → Run β) (journal : Journal) :
    ((run >>= next).on journal).1 =
      (run.on journal).1 >>= fun a ↦ ((next a).on (run.on journal).2).1 := by
  rcases hrun : run.on journal with ⟨fault | a, later⟩
  · rw [on_bind_of_error hrun]
    rfl
  · rw [on_bind_of_ok hrun]
    rfl

theorem on_emit_bind (event : Event) (next : Unit → Run α) (journal : Journal) :
    (emit event >>= next).on journal = (next ()).on (journal.record event) := rfl

theorem ofExcept_ok_bind (a : α) (next : α → Run β) : ofExcept (.ok a) >>= next = next a := rfl

theorem id_map (run : Run α) : id <$> run = run := by
  ext journal : 1
  change (run >>= fun a ↦ pure (id a)).on journal = _
  rcases hrun : run.on journal with ⟨_ | a, later⟩
  · rw [on_bind_of_error hrun]
  · rw [on_bind_of_ok hrun]
    rfl

theorem bind_assoc (run : Run α) (next : α → Run β) (last : β → Run γ) :
    run >>= next >>= last = run >>= fun a ↦ next a >>= last := by
  ext journal : 1
  rcases hrun : run.on journal with ⟨fault | a, later⟩
  · rw [on_bind_of_error hrun, on_bind_of_error (on_bind_of_error hrun next)]
  · rw [on_bind_of_ok hrun]
    rcases hnext : (next a).on later with ⟨fault | b, latest⟩
    · rw [on_bind_of_error hnext, on_bind_of_error ((on_bind_of_ok hrun next).trans hnext)]
    · rw [on_bind_of_ok hnext, on_bind_of_ok ((on_bind_of_ok hrun next).trans hnext)]

instance : LawfulMonad Run := LawfulMonad.mk' Run id_map (fun _ _ ↦ rfl) bind_assoc

/-! ## On a fresh journal -/

def outcome (run : Run α) : Except Fault α := (run.on {}).1

def journal (run : Run α) : Journal := (run.on {}).2

end Run

end PayFormula
