import SyntaxReports.Fault

/-!
# Generators: errors on their way out of a loop

Some items are made on demand, one by one, by a generator. A generator has a
signal to say that there are no more of them. If what makes an item gives that
signal itself, it cannot be passed on, or the loop would end there and the items
behind would be lost; so an error of the generator takes its place. Every other
error is passed on as it is.

What errors there are, and which of them is the signal, depends on the monad
(`MonadGenerator`). The faults of this library are none. A printer of the
caller's may give it, and `Refusal` keeps the two apart: the signal, and the
error that a generator makes of it.
-/

namespace SyntaxReports

/-! ## Monads with generators -/

/-- A monad that knows what becomes of an error in a generator. -/
class MonadGenerator (m : Type → Type) where
  /-- makes an item inside a generator -/
  inGenerator {α : Type} (item : m α) : m α

export MonadGenerator (inGenerator)

/-- A generator changes errors and nothing else. -/
class LawfulMonadGenerator (m : Type → Type) [Monad m] [MonadGenerator m] : Prop where
  /-- an item that is made without an error is made -/
  inGenerator_pure {α : Type} (a : α) : inGenerator (pure a : m α) = pure a
  /-- of two steps, the error in either becomes what it does in a step alone -/
  inGenerator_bind {α β : Type} (item : m α) (f : α → m β) :
    inGenerator (item >>= f) = inGenerator item >>= fun a => inGenerator (f a)

export LawfulMonadGenerator (inGenerator_pure inGenerator_bind)

theorem inGenerator_map {m : Type → Type} [Monad m] [LawfulMonad m] [MonadGenerator m]
    [LawfulMonadGenerator m] {α β : Type} (f : α → β) (item : m α) :
    inGenerator (f <$> item) = f <$> inGenerator item := by
  rw [map_eq_pure_bind, inGenerator_bind, map_eq_pure_bind]
  simp only [inGenerator_pure]

/-- No fault of this library is the signal. -/
instance : MonadGenerator (Except Fault) := ⟨fun item => item⟩

instance : LawfulMonadGenerator (Except Fault) where
  inGenerator_pure _ := rfl
  inGenerator_bind _ _ := rfl

section State

variable {σ : Type} {m : Type → Type} [MonadGenerator m]

/-- A state is kept as it is. -/
instance : MonadGenerator (StateT σ m) := ⟨fun item s => inGenerator (item.run s)⟩

theorem run_inGenerator {α : Type} (item : StateT σ m α) (s : σ) :
    (inGenerator item).run s = inGenerator (item.run s) := rfl

instance [Monad m] [LawfulMonadGenerator m] : LawfulMonadGenerator (StateT σ m) where
  inGenerator_pure a := funext fun s => inGenerator_pure (a, s)
  inGenerator_bind item f := funext fun s => inGenerator_bind (item.run s) fun (a, s) => (f a).run s

end State

/-! ## Errors of the caller's own -/

variable {ε : Type}

/-- What a printer of the caller's own may fail with. -/
inductive Raised (ε : Type) where
  /-- the signal that there are no more items -/
  | stop (signal : ε)
  /-- any other error -/
  | error (error : ε)
  deriving Repr, DecidableEq

/-- Why there is no answer, where the caller's own printer is used. -/
inductive Refusal (ε : Type) where
  /-- a fault of this library -/
  | fault (fault : Fault)
  /-- what the caller's own printer failed with -/
  | printer (raised : Raised ε)
  /-- the error of a generator in which that printer gave the signal -/
  | generator (signal : ε)
  deriving Repr, DecidableEq

/-- What becomes of a refusal in a generator. -/
def Refusal.inGenerator : Refusal ε → Refusal ε
  | .printer (.stop signal) => .generator signal
  | refusal => refusal

instance : MonadLift (Except Fault) (Except (Refusal ε)) := ⟨Except.mapError .fault⟩

instance : LawfulMonadLift (Except Fault) (Except (Refusal ε)) where
  monadLift_pure _ := rfl
  monadLift_bind x _ := by cases x <;> rfl

instance : MonadGenerator (Except (Refusal ε)) := ⟨Except.mapError Refusal.inGenerator⟩

instance : LawfulMonadGenerator (Except (Refusal ε)) where
  inGenerator_pure _ := rfl
  inGenerator_bind item _ := by cases item <;> rfl

end SyntaxReports
