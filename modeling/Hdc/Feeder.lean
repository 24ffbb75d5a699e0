import Mathlib.Data.List.Basic

/- A worker that feeds a queue, with no program attached: it gets an item, holds it until there is
   room in the queue and goes back for the next, until it finds its source at an end or the reader
   of the queue gone. `items` is what has been got and not yet taken from the queue; the lemmas say
   what becomes of it. -/

structure Feeder (α : Type) where
  hand : Option α
  done : Bool
  queue : List α
  deriving DecidableEq

namespace Feeder
variable {α : Type} {f : Feeder α} {a : α}

def new : Feeder α := ⟨none, false, []⟩

/-- It is about to get an item. -/
def Idle (f : Feeder α) : Prop := f.done = false ∧ f.hand = none

instance [DecidableEq α] : Decidable f.Idle := inferInstanceAs (Decidable (_ ∧ _))

def get (f : Feeder α) (a : α) : Feeder α := { f with hand := some a }

def stop (f : Feeder α) : Feeder α := { f with done := true }

/-- The item goes into the queue; with the reader gone the worker stops, and the item is lost. -/
def pass (f : Feeder α) (reader : Bool) : Feeder α :=
  if reader then { f with hand := none, queue := f.queue ++ f.hand.toList }
  else { f with hand := none, done := true }

def take (f : Feeder α) : Feeder α := { f with queue := f.queue.tail }

def items (f : Feeder α) : List α := f.queue ++ f.hand.toList

/-- A worker that has stopped holds nothing. -/
def Sane (f : Feeder α) : Prop := f.done = true → f.hand = none

theorem Sane.get (hidle : f.Idle) : (f.get a).Sane := by
  intro hdone
  exact absurd (hidle.1.symm.trans hdone) (by decide)

theorem Sane.stop (hidle : f.Idle) : f.stop.Sane := fun _ => hidle.2

theorem Sane.pass (reader : Bool) : (f.pass reader).Sane := by
  intro _
  cases reader <;> rfl

@[simp] theorem items_new : (new : Feeder α).items = [] := rfl

theorem items_get (hidle : f.Idle) : (f.get a).items = f.items ++ [a] := by
  simp [items, get, hidle.2]

theorem items_pass : (f.pass true).items = f.items := by
  simp [items, pass]

theorem items_take (h : a ∈ f.queue.head?) : f.items = a :: f.take.items := by
  rw [items, List.eq_cons_of_mem_head? h]
  rfl

/-- The steps an item still takes until it is out of the queue. -/
def load (f : Feeder α) : Nat := 3 * f.hand.toList.length + 2 * f.queue.length + (!f.done).toNat

theorem load_get (hidle : f.Idle) : (f.get a).load = f.load + 3 := by
  simp [load, get, hidle.2]
  omega

theorem load_stop (hidle : f.Idle) : f.stop.load < f.load := by
  simp [load, stop, hidle.1]

theorem load_pass (h : a ∈ f.hand) (reader : Bool) : (f.pass reader).load < f.load := by
  cases reader <;> simp [load, pass, Option.mem_def.mp h] <;> omega

theorem load_take (h : a ∈ f.queue.head?) : f.take.load + 2 = f.load := by
  have hlength := congrArg List.length (List.eq_cons_of_mem_head? h)
  simp only [load, take, List.length_cons] at hlength ⊢
  omega

end Feeder
