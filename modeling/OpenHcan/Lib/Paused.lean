import OpenHcan.Lib.Machine

/-!
# Paused — handlers that sleep at known places

A handler is a function that runs to its next sleep: it returns the state and
the place where it goes on, or no place when it is done. Only one handler can be
asleep. One that starts meanwhile is told so and does not sleep, so the place it
returns is of no interest.
-/

namespace OpenHcan.Lib

variable {σ π : Type*}

/-- A system and the place where its sleeping handler goes on, if there is one. -/
structure Paused (σ π : Type*) where
  state : σ
  place : Option π
deriving DecidableEq

namespace Paused

/-- A handler starts. It is told whether another one sleeps. -/
def handle (h : Bool → σ → σ × Option π) (c : Paused σ π) : Paused σ π :=
  match c.place with
  | none => ⟨(h false c.state).1, (h false c.state).2⟩
  | some p => ⟨(h true c.state).1, some p⟩

/-- The sleep is over. -/
def wake (rest : π → σ → σ × Option π) (c : Paused σ π) : Paused σ π :=
  match c.place with
  | none => c
  | some p => ⟨(rest p c.state).1, (rest p c.state).2⟩

/-- Nobody sleeps. -/
@[simp] theorem handle_awake (h : Bool → σ → σ × Option π) (s : σ) :
    handle h ⟨s, none⟩ = ⟨(h false s).1, (h false s).2⟩ := rfl

@[simp] theorem handle_asleep (h : Bool → σ → σ × Option π) (s : σ) (p : π) :
    handle h ⟨s, some p⟩ = ⟨(h true s).1, some p⟩ := rfl

@[simp] theorem wake_awake (rest : π → σ → σ × Option π) (s : σ) :
    wake rest ⟨s, none⟩ = ⟨s, none⟩ := rfl

@[simp] theorem wake_asleep (rest : π → σ → σ × Option π) (s : σ) (p : π) :
    wake rest ⟨s, some p⟩ = ⟨(rest p s).1, (rest p s).2⟩ := rfl

/-- The state does not depend on where the sleeping handler goes on. -/
@[simp] theorem handle_state (h : Bool → σ → σ × Option π) (c : Paused σ π) :
    (c.handle h).state = (h c.place.isSome c.state).1 := by
  obtain ⟨s, _ | p⟩ := c
  · rfl
  · rfl

/-- A place is the one of before, or the one the handler has just reached. -/
theorem handle_place {h : Bool → σ → σ × Option π} {c : Paused σ π} {p : π}
    (hp : (c.handle h).place = some p) :
    c.place = some p ∨ c.place = none ∧ (h false c.state).2 = some p := by
  obtain ⟨s, _ | q⟩ := c
  · exact .inr ⟨rfl, hp⟩
  · exact .inl hp

end Paused

end OpenHcan.Lib
