import PackageFinder.Link.Occurrence

/-!
# Which link a page stands for

A page may carry several links.  `first?` takes the leftmost.  `greedy?` takes the last one that
starts on the first line on which any starts; a line ends at a line feed, and a link that starts
on a line may end on a later one.
-/

namespace PackageFinder.Link

/-- The leftmost link. -/
def first? : List Char → Option (List Char)
  | [] => none
  | c :: s => match linkAt? (c :: s) with
    | some u => some u
    | none => first? s

/-- The last link that starts before the first line feed. -/
def lastOnLine? : List Char → Option (List Char)
  | [] => none
  | c :: s =>
    if c = '\n' then none
    else match lastOnLine? s with
      | some u => some u
      | none => linkAt? (c :: s)

/-- What follows the first line feed. -/
def nextLine? : List Char → Option (List Char)
  | [] => none
  | c :: s => if c = '\n' then some s else nextLine? s

/-- The next line is a shorter text. -/
theorem length_lt_of_nextLine? {s r : List Char} (h : nextLine? s = some r) :
    r.length < s.length := by
  induction s with
  | nil => simp [nextLine?] at h
  | cons c s ih =>
    by_cases hc : c = '\n'
    · simp [nextLine?, hc] at h
      subst h
      simp
    · simp [nextLine?, hc] at h
      have := ih h
      simp only [List.length_cons]
      omega

/-- The last link that starts on the first line on which one starts. -/
def greedy? (s : List Char) : Option (List Char) :=
  match lastOnLine? s with
  | some u => some u
  | none => match _h : nextLine? s with
    | some r => greedy? r
    | none => none
termination_by s.length
decreasing_by exact length_lt_of_nextLine? _h

end PackageFinder.Link
