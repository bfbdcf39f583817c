import HourlyIngest.Sink
import Mathlib.Data.Multiset.AddSub

/-!
# What a sink promises

A sweep hands rows over and believes the answer.  It may believe it because of the contract of a
sink (`Sink.Honest`): an answer with a count means that the given rows were kept, each of them once,
and that the count is their number; a failure means that nothing was kept; and in either case the
file system was left alone.  `Wavering.sink` is a sink under this contract that refuses now and
then.
-/

namespace HourlyIngest

variable {σ : Type}

/-- A sink that leaves the file system alone. -/
def Sink.Quiet (sink : Sink σ) : Prop :=
  ∀ world file rows, (sink.insert world file rows).2.files = world.files

theorem Sink.Quiet.files_eq {sink : Sink σ} (hquiet : sink.Quiet) {world after : World σ}
    {file : String} {rows : List Observation} {answer : Except Failure Nat}
    (hinsert : sink.insert world file rows = (answer, after)) : after.files = world.files := by
  rw [← hquiet world file rows, hinsert]

/-- The contract of a sink.  `kept` is what a state of the sink has kept. -/
structure Sink.Honest (sink : Sink σ) (kept : σ → Multiset Observation) : Prop where
  quiet : sink.Quiet
  refuses : ∀ {world after : World σ} {file : String} {rows : List Observation} {failure : Failure},
    sink.insert world file rows = (.error failure, after) → kept after.sink = kept world.sink
  accepts : ∀ {world after : World σ} {file : String} {rows : List Observation} {count : Nat},
    sink.insert world file rows = (.ok count, after) →
      count = rows.length ∧ kept after.sink = kept world.sink + (rows : Multiset Observation)

/-- The part of the contract that is about rows.  What becomes of the file system during a call is
left open: others may be at work there. -/
structure Sink.Careful (sink : Sink σ) (kept : σ → Multiset Observation) : Prop where
  refuses : ∀ {world after : World σ} {file : String} {rows : List Observation} {failure : Failure},
    sink.insert world file rows = (.error failure, after) → kept after.sink = kept world.sink
  accepts : ∀ {world after : World σ} {file : String} {rows : List Observation} {count : Nat},
    sink.insert world file rows = (.ok count, after) →
      count = rows.length ∧ kept after.sink = kept world.sink + (rows : Multiset Observation)

theorem Sink.Honest.careful {sink : Sink σ} {kept : σ → Multiset Observation}
    (hhonest : sink.Honest kept) : sink.Careful kept where
  refuses := hhonest.refuses
  accepts := hhonest.accepts

/-! ## A sink that keeps the contract -/

/-- Which of the next calls are refused, and the rows kept so far. -/
structure Wavering where
  refusals : List Bool := []
  rows : List Observation := []
deriving DecidableEq, Repr

namespace Wavering

/-- Refuse the rows if that was laid down, and keep them otherwise. -/
def insert (world : World Wavering) (_ : String) (rows : List Observation) :
    Except Failure Nat × World Wavering :=
  if world.sink.refusals.head? = some true then
    (.error (.invalidSetting "refused"),
      { world with sink := { world.sink with refusals := world.sink.refusals.drop 1 } })
  else
    (.ok rows.length,
      { world with sink := ⟨world.sink.refusals.drop 1, world.sink.rows ++ rows⟩ })

/-- The sink that refuses as laid down. -/
def sink : Sink Wavering := ⟨insert⟩

/-- The rows that a state has kept, in any order. -/
def kept (state : Wavering) : Multiset Observation := state.rows

theorem quiet_sink : sink.Quiet := by
  intro world file rows
  simp only [sink, insert]
  split <;> rfl

theorem honest_sink : sink.Honest kept where
  quiet := quiet_sink
  refuses := by
    intro world after file rows failure hinsert
    simp only [sink, insert] at hinsert
    split at hinsert
    · cases hinsert
      rfl
    · simp at hinsert
  accepts := by
    intro world after file rows count hinsert
    simp only [sink, insert] at hinsert
    split at hinsert
    · simp at hinsert
    · cases hinsert
      exact ⟨rfl, (Multiset.coe_add _ _).symm⟩

end Wavering

end HourlyIngest
