namespace TracingLexer.Search

/-- Visits the states of the queue that are still fresh, and what they lead to, in order of
discovery. A state may wait in the queue more than once; it is visited the first time. -/
def visit (successors : Nat → List Nat) (fresh : List Nat) : List Nat → List Nat
  | [] => []
  | state :: queue =>
      if state ∈ fresh then
        let left := fresh.erase state
        state :: visit successors left (queue ++ (successors state).filter (· ∈ left))
      else visit successors fresh queue
termination_by queue => (fresh.length, queue.length)
decreasing_by
  · have erased := List.length_erase_of_mem ‹state ∈ fresh›
    have present := List.length_pos_of_mem ‹state ∈ fresh›
    exact Prod.Lex.left _ _ (by omega)
  · exact Prod.Lex.right _ (by simp)

def breadthFirst (size start : Nat) (successors : Nat → List Nat) : List Nat :=
  visit successors (List.range size) [start]

end TracingLexer.Search
