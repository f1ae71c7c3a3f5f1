/-!
# Sequences of actions

Actions on a workspace and actions of a run are of one kind: they may fail, and keep what they
changed before. Two actions in a row are taken one at a time: the first gives a value and the second
goes on from the state that it left, or the first fails and the second does not happen.
-/

namespace LineJoin

section Sequence

variable {ε σ α β : Type} {x : EStateM ε σ α} {f : α → EStateM ε σ β} {w w' : σ}

theorem bind_of_ok {a : α} (h : x w = .ok a w') : (x >>= f) w = f a w' := by
  show EStateM.bind x f w = f a w'
  unfold EStateM.bind
  rw [h]

theorem bind_of_error {e : ε} (h : x w = .error e w') : (x >>= f) w = .error e w' := by
  show EStateM.bind x f w = .error e w'
  unfold EStateM.bind
  rw [h]

end Sequence

end LineJoin
