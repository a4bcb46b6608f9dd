import OpenHcan.Lib.Machine

/-!
# Resumption — handlers that sleep

A handler may sleep in the middle of its work. The system handles other events
meanwhile, and the rest of the handler runs on whatever state it then finds.
Only one handler can be asleep: one that would sleep while another does goes
straight on.
-/

namespace OpenHcan.Lib

variable {σ τ : Type*}

/-- A handler under way: it is done, or it sleeps and has a rest to do. -/
inductive Resumption (σ : Type*)
  | done (s : σ)
  | sleep (s : σ) (rest : σ → Resumption σ)

namespace Resumption

/-- First `r`, then `f`. -/
def bind : Resumption σ → (σ → Resumption σ) → Resumption σ
  | done s, f => f s
  | sleep s rest, f => sleep s fun s' => (rest s').bind f

def map (f : σ → σ) (r : Resumption σ) : Resumption σ := r.bind fun s => done (f s)

/-- The handler without its sleeps. -/
def straight : Resumption σ → σ
  | done s => s
  | sleep s rest => (rest s).straight

/-- A handler on a part of the state. What is left of it when it wakes up is
dropped if the part is gone. -/
def focus (get : τ → Option σ) (put : τ → σ → τ) : Resumption σ → τ → Resumption τ
  | done s, t => done (put t s)
  | sleep s rest, t =>
      sleep (put t s) fun t' =>
        match get t' with
        | none => done t'
        | some s' => (rest s').focus get put t'

@[simp] theorem done_bind (s : σ) (f : σ → Resumption σ) : (done s).bind f = f s := rfl

@[simp] theorem map_done (f : σ → σ) (s : σ) : (done s).map f = done (f s) := rfl

@[simp] theorem focus_done (get : τ → Option σ) (put : τ → σ → τ) (s : σ) (t : τ) :
    (done s).focus get put t = done (put t s) := rfl

/-- A last step that changes nothing. -/
theorem map_of_id {f : σ → σ} (hf : ∀ s, f s = s) (r : Resumption σ) : r.map f = r := by
  induction r with
  | done s => rw [map_done, hf]
  | sleep s rest ih =>
      show sleep s (fun s' => (rest s').map f) = sleep s rest
      rw [funext ih]

theorem map_map (f g : σ → σ) (r : Resumption σ) : (r.map f).map g = r.map fun s => g (f s) := by
  induction r with
  | done s => rfl
  | sleep s rest ih =>
      show sleep s (fun s' => ((rest s').map f).map g) = sleep s fun s' => (rest s').map _
      rw [funext ih]

end Resumption

/-- A system with its sleeping handler, if there is one. -/
structure Sleeper (σ : Type*) where
  state : σ
  asleep : Option (σ → Resumption σ)

namespace Sleeper

/-- A handler has come to its end or to a sleep. -/
def settle : Resumption σ → Sleeper σ
  | .done s => ⟨s, none⟩
  | .sleep s rest => ⟨s, some rest⟩

/-- An event comes and `h` handles it. -/
def handle (h : σ → Resumption σ) (c : Sleeper σ) : Sleeper σ :=
  match c.asleep with
  | none => settle (h c.state)
  | some rest => ⟨(h c.state).straight, some rest⟩

/-- The sleep is over. -/
def wake (c : Sleeper σ) : Sleeper σ :=
  match c.asleep with
  | none => c
  | some rest => settle (rest c.state)

/-- Awake, a handler starts on its own. -/
theorem handle_awake (h : σ → Resumption σ) (s : σ) :
    (⟨s, none⟩ : Sleeper σ).handle h = settle (h s) := rfl

/-- A handler that starts while another one sleeps goes straight on. -/
theorem handle_asleep (h : σ → Resumption σ) (s : σ) (rest : σ → Resumption σ) :
    (⟨s, some rest⟩ : Sleeper σ).handle h = ⟨(h s).straight, some rest⟩ := rfl

/-- **A handler that does not sleep** does the same whether another one is
asleep or not. -/
theorem handle_of_done {h : σ → Resumption σ} {c : Sleeper σ} {s : σ} (hd : h c.state = .done s) :
    c.handle h = ⟨s, c.asleep⟩ := by
  unfold handle
  rw [hd]
  cases hc : c.asleep with
  | none => rfl
  | some rest => rfl

end Sleeper

end OpenHcan.Lib
