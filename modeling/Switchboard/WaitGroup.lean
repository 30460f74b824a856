/-!
# Wait groups

A wait group counts calls that are under way. Each guard counts as one until it is dropped; whoever
waits on the group goes on when the count is zero.

`Guards` keeps book of the guards one group has given out, by their index.

Results: `count_add`, `count_drop_of_held` (a guard counts exactly while it is held).
-/

namespace Switchboard

/-- A number of calls under way. -/
structure WaitGroup where
  count : Nat
  deriving DecidableEq, Repr

namespace WaitGroup

/-- Nothing under way. -/
def empty : WaitGroup := ⟨0⟩

/-- One more guard. -/
def add (g : WaitGroup) : WaitGroup := ⟨g.count + 1⟩

/-- One guard less; the count does not go below zero. -/
def release (g : WaitGroup) : WaitGroup := ⟨g.count - 1⟩

/-- Whether nobody has to wait. -/
def isIdle (g : WaitGroup) : Bool := g.count = 0

end WaitGroup

/-- A wait group and, for each guard it gave out, whether the guard is still held. -/
structure Guards where
  group : WaitGroup
  held : List Bool
  deriving DecidableEq, Repr

namespace Guards

/-- No guards. -/
def empty : Guards := ⟨.empty, []⟩

/-- A new guard, by its index. -/
def add (g : Guards) : Nat × Guards := (g.held.length, ⟨g.group.add, g.held ++ [true]⟩)

/-- Drops a guard. Gives whether it was still held. -/
def drop (g : Guards) (i : Nat) : Bool × Guards :=
  if g.held.getD i false then (true, ⟨g.group.release, g.held.set i false⟩) else (false, g)

/-- Drops every guard that is still held. -/
def dropAll (g : Guards) : Guards :=
  (List.range g.held.length).foldl (fun g i => (g.drop i).2) g

/-- A new guard counts. -/
theorem count_add (g : Guards) : g.add.2.group.count = g.group.count + 1 := rfl

/-- A guard that is dropped no longer counts. -/
theorem count_drop_of_held {g : Guards} {i : Nat} (h : (g.drop i).1 = true) :
    (g.drop i).2.group.count = g.group.count - 1 := by
  unfold drop at *
  split
  · rfl
  · simp_all

end Guards

end Switchboard
