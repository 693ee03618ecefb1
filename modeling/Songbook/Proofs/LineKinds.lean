import Mathlib.Data.List.TakeWhile

/-!
# Kinds of lines

A line of markup is a comment, has a directive, ends inside one, or is a line of lyrics. Its
characters tell which (`LineKind.of`), and so does each of them after the kind of what stands before
it (`LineKind.of_append`).
-/

namespace Songbook.Markup

/-- The characters after the last `c`, all of them if there is none. -/
def afterLast (c : Char) (cs : List Char) : List Char := (cs.reverse.takeWhile (· ≠ c)).reverse

theorem afterLast_append (c d : Char) (cs : List Char) :
    afterLast c (cs ++ [d]) = if d = c then [] else afterLast c cs ++ [d] := by
  by_cases h : d = c <;> simp [afterLast, h]

inductive LineKind where
  | comment
  /-- A line with that directive, the rest of which is passed over. -/
  | directive (text : List Char)
  /-- A line that ends inside a directive, of which it has that. -/
  | openDirective (text : List Char)
  | lyrics
deriving DecidableEq, Repr

namespace LineKind

/-- The kind of a line without carriage returns. Its directive ends at the first closing brace
after the first opening one, and begins after the last opening one before that. -/
def of (line : List Char) : LineKind :=
  let braced := line.dropWhile (· ≠ '{')
  let text := afterLast '{' (braced.takeWhile (· ≠ '}'))
  if line.head? = some '#' then .comment
  else if '{' ∉ line then .lyrics
  else if '}' ∈ braced then .directive text
  else .openDirective text

example : of "a \x7d [b \x7b c [d] \x7b e \x7d f \x7b g \x7d".toList = .directive " e ".toList := by
  decide

/-- The kind of the line with one character more, which may be its first. -/
def next (isFirst : Bool) (c : Char) : LineKind → LineKind
  | .comment => .comment
  | .directive text => .directive text
  | .openDirective text =>
    if c = '}' then .directive text
    else if c = '{' then .openDirective []
    else .openDirective (text ++ [c])
  | .lyrics =>
    if isFirst ∧ c = '#' then .comment
    else if c = '{' then .openDirective []
    else .lyrics

variable {line : List Char} {c : Char}

theorem of_lyrics (h : line.head? ≠ some '#') (hopen : '{' ∉ line) : of line = .lyrics :=
  (if_neg h).trans (if_pos hopen)

theorem of_directive (h : line.head? ≠ some '#') (hopen : '{' ∈ line)
    (hclose : '}' ∈ line.dropWhile (· ≠ '{')) :
    of line = .directive (afterLast '{' ((line.dropWhile (· ≠ '{')).takeWhile (· ≠ '}'))) :=
  (if_neg h).trans ((if_neg (not_not_intro hopen)).trans (if_pos hclose))

theorem takeWhile_of_notMem {cs : List Char} (h : c ∉ cs) : cs.takeWhile (· ≠ c) = cs := by
  rw [List.takeWhile_eq_self_iff]
  intro d hd
  exact decide_eq_true fun he => h (he ▸ hd)

theorem of_openDirective (h : line.head? ≠ some '#') (hopen : '{' ∈ line)
    (hclose : '}' ∉ line.dropWhile (· ≠ '{')) :
    of line = .openDirective (afterLast '{' (line.dropWhile (· ≠ '{'))) := by
  have htext := takeWhile_of_notMem hclose
  simp only [of, if_neg h, hopen, hclose, not_true, if_false, htext]

/-- From the first opening brace on, a longer line is longer by as much. -/
theorem dropWhile_append_of_mem (h : '{' ∈ line) (c : Char) :
    (line ++ [c]).dropWhile (· ≠ '{') = line.dropWhile (· ≠ '{') ++ [c] := by
  rw [List.dropWhile_append, if_neg]
  intro hnil
  have hall := List.dropWhile_eq_nil_iff.1 (List.isEmpty_iff.1 hnil) '{' h
  simp at hall

theorem dropWhile_append_of_notMem (h : '{' ∉ line) (c : Char) :
    (line ++ [c]).dropWhile (· ≠ '{') = [c].dropWhile (· ≠ '{') := by
  refine List.dropWhile_append_of_pos fun d hd => decide_eq_true ?_
  rintro rfl
  exact h hd

theorem of_append_braced (hhead : line.head? ≠ some '#') (hopen : '{' ∈ line)
    (hhead' : (line ++ [c]).head? ≠ some '#') (isFirst : Bool) :
    of (line ++ [c]) = (of line).next isFirst c := by
  have hopen' : '{' ∈ line ++ [c] := List.mem_append_left _ hopen
  have hbraced := dropWhile_append_of_mem hopen c
  by_cases hclose : '}' ∈ line.dropWhile (· ≠ '{')
  · -- the directive is complete, and what follows is passed over
    have hclose' : '}' ∈ (line ++ [c]).dropWhile (· ≠ '{') := by
      rw [hbraced]
      exact List.mem_append_left _ hclose
    have hshort : ((line.dropWhile (· ≠ '{')).takeWhile (· ≠ '}')).length ≠
        (line.dropWhile (· ≠ '{')).length := by
      intro hlength
      have hall := List.takeWhile_eq_self_iff.1
        ((List.takeWhile_prefix _).eq_of_length hlength) '}' hclose
      simp at hall
    rw [of_directive hhead hopen hclose, of_directive hhead' hopen' hclose', hbraced,
      List.takeWhile_append, if_neg hshort]
    rfl
  rw [of_openDirective hhead hopen hclose]
  by_cases hend : c = '}'
  · subst hend
    have hclose' : '}' ∈ (line ++ ['}']).dropWhile (· ≠ '{') := by
      rw [hbraced]
      simp
    rw [of_directive hhead' hopen' hclose', hbraced, List.takeWhile_append,
      takeWhile_of_notMem hclose, if_pos rfl]
    simp [next]
  · have hclose' : '}' ∉ (line ++ [c]).dropWhile (· ≠ '{') := by
      rw [hbraced, List.mem_append, List.mem_singleton, not_or]
      exact ⟨hclose, Ne.symm hend⟩
    rw [of_openDirective hhead' hopen' hclose', hbraced, afterLast_append]
    by_cases hbrace : c = '{' <;> simp [next, hend, hbrace]

theorem of_append_unbraced (hhead : line.head? ≠ some '#') (hopen : '{' ∉ line)
    (hhead' : (line ++ [c]).head? ≠ some '#') {isFirst : Bool} (hfirst : ¬ (isFirst ∧ c = '#')) :
    of (line ++ [c]) = (of line).next isFirst c := by
  rw [of_lyrics hhead hopen]
  show _ = if isFirst ∧ c = '#' then _ else _
  rw [if_neg hfirst]
  by_cases hbrace : c = '{'
  · subst hbrace
    have hbraced := dropWhile_append_of_notMem hopen '{'
    have hclose' : '}' ∉ (line ++ ['{']).dropWhile (· ≠ '{') := by
      rw [hbraced]
      decide
    rw [of_openDirective hhead' (by simp) hclose', hbraced]
    rfl
  · rw [if_neg hbrace]
    exact of_lyrics hhead' (by simp [hopen, Ne.symm hbrace])

theorem of_append (line : List Char) (c : Char) :
    of (line ++ [c]) = (of line).next line.isEmpty c := by
  cases line with
  | nil =>
    by_cases hhash : c = '#'
    · subst hhash
      decide
    · exact of_append_unbraced (by simp) (by simp) (by simpa using hhash) (by simpa using hhash)
  | cons d line =>
    by_cases hhash : d = '#'
    · subst hhash
      rfl
    have hhead : ∀ l, (d :: l).head? ≠ some '#' := by
      intro l
      simpa using hhash
    by_cases hopen : '{' ∈ d :: line
    · exact of_append_braced (hhead _) hopen (hhead _) _
    · exact of_append_unbraced (hhead _) hopen (hhead _) (by simp)

end LineKind

end Songbook.Markup
