import Mathlib.Tactic.SplitIfs
import Songbook.PostScript.Machine
import Songbook.Proofs.StringLiterals

/-!
# Code read back

How a device takes code apart (`readFrom`): words and strings, parted by blanks or by marks that
stand for themselves, with comments left out. Rows whose names are made of regular characters are
read as the tokens that they are written from (`readCode?_rows`), and no other name is ever read
(`isName_of_read`).
-/

namespace Songbook.PostScript

/-- The characters that part words and have no other meaning. -/
def isSpace (c : Char) : Bool :=
  c == ' ' || c == '\t' || c == '\n' || c == '\r' || c == '\x0c' || c == '\x00'

/-- The characters that end a word and have a meaning of their own. -/
def isDelimiter (c : Char) : Bool :=
  c == '(' || c == ')' || c == '<' || c == '>' || c == '[' || c == ']' || c == '\x7b' ||
    c == '\x7d' || c == '/' || c == '%'

/-- The characters that words are made of. -/
def isRegular (c : Char) : Bool := !(isSpace c || isDelimiter c)

def isLineEnd (c : Char) : Bool := c == '\n' || c == '\r' || c == '\x0c'

/-- What may follow a slash. -/
def isName (s : String) : Bool := s.toList.all isRegular

/-- What may stand without one. -/
def isWord (s : String) : Bool := !s.toList.isEmpty && isName s

/-- The pieces of code. -/
inductive Lexeme where
  /-- A number or a name. A literal one stands behind a slash and is not run. -/
  | word (literal : Bool) (chars : List Char)
  | string (codes : List Nat)
  /-- A brace or a bracket. -/
  | mark (c : Char)
deriving DecidableEq, Repr

/-- What a reader of code is in. -/
inductive Reading where
  | between
  | comment
  | word (literal : Bool) (chars : List Char)
  | string (codes : List Nat) (depth : Nat) (scan : Scan)
deriving DecidableEq, Repr

/-- What a character begins where nothing has begun. No string is closed that has not been
opened. -/
def begins (c : Char) : Option (List Lexeme × Reading) :=
  if isSpace c then some ([], .between)
  else if isRegular c then some ([], .word false [c])
  else if c = '%' then some ([], .comment)
  else if c = '/' then some ([], .word true [])
  else if c = '(' then some ([], .string [] 0 .plain)
  else if c = ')' then none
  else some ([.mark c], .between)

/-- The pieces that a character ends, and what the reader is in after it. -/
def readNext (c : Char) : Reading → Option (List Lexeme × Reading)
  | .between => begins c
  | .comment => some ([], if isLineEnd c then .between else .comment)
  | .word literal chars =>
    if isRegular c then some ([], .word literal (chars ++ [c]))
    else (begins c).map fun (found, reading) => (.word literal chars :: found, reading)
  | .string codes depth scan =>
    match scanNext depth c scan with
    | .closed more => some ([.string (codes ++ more)], .between)
    | .more more depth scan => some ([], .string (codes ++ more) depth scan)

/-- What ends with the code. -/
def Reading.last : Reading → Option (List Lexeme)
  | .between | .comment => some []
  | .word literal chars => some [.word literal chars]
  | .string .. => none

/-- The pieces of the code from here on. -/
def readFrom (reading : Reading) : List Char → Option (List Lexeme)
  | [] => reading.last
  | c :: cs =>
    (readNext c reading).bind fun (found, reading) => (readFrom reading cs).map (found ++ ·)

def readCode? (text : String) : Option (List Lexeme) := readFrom .between text.toList

example : readCode? "/F\x7ba(%)\x7d1%b\n2" = some [.word true ['F'], .mark '\x7b',
    .word false ['a'], .string [37], .mark '\x7d', .word false ['1'], .word false ['2']] := by
  decide +kernel

example : readCode? "a) b" = none := by decide +kernel

/-- A character that ends nothing. -/
theorem map_nil_append (found : Option (List Lexeme)) : found.map ([] ++ ·) = found :=
  congrFun Option.map_id _

/-! ## Names -/

/-- Words have regular characters only. -/
def Lexeme.isSound : Lexeme → Bool
  | .word _ chars => chars.all isRegular
  | _ => true

def Reading.isSound : Reading → Bool
  | .word _ chars => chars.all isRegular
  | _ => true

theorem begins_sound {c : Char} {found : List Lexeme} {reading : Reading}
    (h : begins c = some (found, reading)) :
    reading.isSound = true ∧ found.all Lexeme.isSound = true := by
  unfold begins at h
  split_ifs at h with hspace hregular <;> cases h
  · exact ⟨rfl, rfl⟩
  · exact ⟨by simpa [Reading.isSound] using hregular, rfl⟩
  all_goals exact ⟨rfl, rfl⟩

theorem readNext_sound {c : Char} {reading reading' : Reading} {found : List Lexeme}
    (h : readNext c reading = some (found, reading')) (hreading : reading.isSound = true) :
    reading'.isSound = true ∧ found.all Lexeme.isSound = true := by
  cases reading with
  | between => exact begins_sound h
  | comment =>
    cases h
    refine ⟨?_, rfl⟩
    split <;> rfl
  | word literal chars =>
    simp only [readNext] at h
    split at h
    · next hregular =>
      cases h
      refine ⟨?_, rfl⟩
      show (chars ++ [c]).all isRegular = true
      rw [List.all_append, Bool.and_eq_true_iff]
      exact ⟨hreading, by simpa using hregular⟩
    · obtain ⟨⟨begun, next⟩, hbegins, heq⟩ := Option.map_eq_some_iff.1 h
      obtain ⟨rfl, rfl⟩ := Prod.mk.inj heq
      obtain ⟨hnext, hbegun⟩ := begins_sound hbegins
      exact ⟨hnext, Bool.and_eq_true_iff.2 ⟨hreading, hbegun⟩⟩
  | string codes depth scan =>
    simp only [readNext] at h
    split at h <;> cases h <;> exact ⟨rfl, rfl⟩

theorem readFrom_sound {reading : Reading} {cs : List Char} {found : List Lexeme}
    (h : readFrom reading cs = some found) (hreading : reading.isSound = true) :
    found.all Lexeme.isSound = true := by
  induction cs generalizing reading found with
  | nil =>
    cases reading with
    | string codes depth scan => cases h
    | between | comment =>
      cases h
      rfl
    | word literal chars =>
      cases h
      exact Bool.and_eq_true_iff.2 ⟨hreading, rfl⟩
  | cons c cs ih =>
    obtain ⟨⟨first, next⟩, hnext, hmap⟩ := Option.bind_eq_some_iff.1 h
    obtain ⟨rest, hrest, rfl⟩ := Option.map_eq_some_iff.1 hmap
    obtain ⟨hreading', hfirst⟩ := readNext_sound hnext hreading
    rw [List.all_append, Bool.and_eq_true_iff]
    exact ⟨hfirst, ih hrest hreading'⟩

/-- No name is read that has other characters. -/
theorem isName_of_read {text name : String} {found : List Lexeme} {literal : Bool}
    (h : readCode? text = some found) (hmem : .word literal name.toList ∈ found) :
    isName name = true :=
  List.all_eq_true.1 (readFrom_sound h rfl) _ hmem

/-! ## Words and strings -/

variable {c d : Char} {cs rest : List Char}

/-- A word goes on to the first character that is not regular. -/
theorem readFrom_word (hcs : cs.all isRegular = true) (hd : isRegular d = false) (literal : Bool)
    (before : List Char) : readFrom (.word literal before) (cs ++ d :: rest) =
      (readFrom .between (d :: rest)).map (.word literal (before ++ cs) :: ·) := by
  induction cs generalizing before with
  | nil =>
    simp only [List.nil_append, List.append_nil, readFrom, readNext, hd]
    cases begins d <;> simp [Function.comp_def]
  | cons c cs ih =>
    obtain ⟨hc, hcs⟩ := Bool.and_eq_true_iff.1 hcs
    have hnext : readFrom (.word literal before) (c :: (cs ++ d :: rest)) =
        readFrom (.word literal (before ++ [c])) (cs ++ d :: rest) := by
      simp [readFrom, readNext, hc]
    rw [List.cons_append, hnext, ih hcs, List.append_assoc]
    rfl

theorem readFrom_isWord {word : String} (h : isWord word = true) (hd : isRegular d = false) :
    readFrom .between (word.toList ++ d :: rest) =
      (readFrom .between (d :: rest)).map (.word false word.toList :: ·) := by
  unfold isWord isName at h
  cases hchars : word.toList with
  | nil => simp [hchars] at h
  | cons c cs =>
    rw [hchars] at h
    obtain ⟨hc, hcs⟩ := Bool.and_eq_true_iff.1 (Bool.and_eq_true_iff.1 h).2
    have hspace : isSpace c = false := by
      unfold isRegular at hc
      simp_all
    have hbegins : readFrom .between (c :: (cs ++ d :: rest)) =
        readFrom (.word false [c]) (cs ++ d :: rest) := by
      simp [readFrom, readNext, begins, hspace, hc]
    rw [List.cons_append, hbegins, readFrom_word hcs hd]
    rfl

theorem readFrom_isName {name : String} (h : isName name = true) (hd : isRegular d = false) :
    readFrom .between ('/' :: (name.toList ++ d :: rest)) =
      (readFrom .between (d :: rest)).map (.word true name.toList :: ·) := by
  have hbegins : readFrom .between ('/' :: (name.toList ++ d :: rest)) =
      readFrom (.word true []) (name.toList ++ d :: rest) := by
    show (readFrom (.word true []) _).map ([] ++ ·) = _
    exact map_nil_append _
  rw [hbegins]
  exact readFrom_word h hd true []

theorem readFrom_string {value : List Nat} {depth : Nat} {scan : Scan}
    (h : scanString depth scan cs = some (value, rest)) (codes : List Nat) :
    readFrom (.string codes depth scan) cs =
      (readFrom .between rest).map (.string (codes ++ value) :: ·) := by
  induction cs generalizing value depth scan codes with
  | nil => cases h
  | cons c cs ih =>
    rw [scanString] at h
    rw [readFrom, readNext]
    cases hnext : scanNext depth c scan with
    | closed more =>
      rw [hnext] at h
      cases h
      rfl
    | more more depth' scan' =>
      rw [hnext] at h
      obtain ⟨⟨value', rest'⟩, hvalue, heq⟩ := Option.map_eq_some_iff.1 h
      obtain ⟨rfl, rfl⟩ := Prod.mk.inj heq
      show (readFrom (.string (codes ++ more) depth' scan') cs).map ([] ++ ·) = _
      rw [ih hvalue, List.append_assoc]
      exact map_nil_append _

/-- The codes that a device has for a text. A carriage return ends a line, alone or with the line
feed after it. -/
def shownCodes : List Char → List Nat
  | [] => []
  | '\r' :: '\n' :: cs => '\n'.toNat :: shownCodes cs
  | c :: cs => (if c = '\r' then '\n'.toNat else latin1 c) :: shownCodes cs

theorem scanString_return (cs : List Char) : scanString 0 .plain ('\r' :: cs) =
    withCode '\n'.toNat (scanString 0 .afterReturn cs) :=
  scanString_code rfl cs

theorem scanString_afterReturn {depth : Nat} (h : ∀ cs', cs ≠ '\n' :: cs') :
    scanString depth .afterReturn cs = scanString depth .plain cs := by
  cases cs with
  | nil => rfl
  | cons c cs =>
    have hc : c ≠ '\n' := fun hc => h cs (by rw [hc])
    simp only [scanString, scanNext, if_neg hc]

theorem escapeChar_ne_lineFeed (hc : c ≠ '\n') (cs' : List Char) :
    escapeChar c ++ cs ≠ '\n' :: cs' := by
  unfold escapeChar octalEscape
  split_ifs <;> simp [hc]

/-- What is written for a text is read as its codes. -/
theorem scanString_shown (text rest : List Char) :
    scanString 0 .plain (text.flatMap escapeChar ++ ')' :: rest) =
      some (shownCodes text, rest) := by
  fun_induction shownCodes text with
  | case1 => rfl
  | case2 cs ih =>
    show scanString 0 .plain ('\r' :: '\n' :: (cs.flatMap escapeChar ++ ')' :: rest)) = _
    rw [scanString_return, scanString_silent rfl, ih]
    rfl
  | case3 c cs hpair ih =>
    rw [List.flatMap_cons, List.append_assoc]
    split
    · next hreturn =>
      subst hreturn
      have hnext : ∀ cs', cs.flatMap escapeChar ++ ')' :: rest ≠ '\n' :: cs' := fun cs' => by
        cases cs with
        | nil => simp
        | cons c cs =>
          rw [List.flatMap_cons, List.append_assoc]
          exact escapeChar_ne_lineFeed (fun hc => hpair cs rfl (by rw [hc])) cs'
      show scanString 0 .plain ('\r' :: (cs.flatMap escapeChar ++ ')' :: rest)) = _
      rw [scanString_return, scanString_afterReturn hnext, ih]
      rfl
    · next hreturn =>
      rw [scanString_escapeChar hreturn, ih]
      rfl

/-! ## Numbers -/

theorem isRegular_of_isDigit (h : c.isDigit = true) : isRegular c = true := by
  have hall : ∀ n : Fin 58, (Char.ofNat n).isDigit = true → isRegular (Char.ofNat n) = true := by
    decide +kernel
  have hbound : c.toNat < 58 := by
    simp only [Char.isDigit, Bool.and_eq_true, decide_eq_true_eq] at h
    exact Nat.lt_succ_of_le h.2
  have hc := hall ⟨c.toNat, hbound⟩
  rw [show Char.ofNat (⟨c.toNat, hbound⟩ : Fin 58) = c from Char.ofNat_toNat c] at hc
  exact hc h

theorem isName_append (s t : String) : isName (s ++ t) = (isName s && isName t) := by
  simp [isName]

theorem isWord_append {s t : String} (hs : isWord s = true) (ht : isName t = true) :
    isWord (s ++ t) = true := by
  unfold isWord at hs ⊢
  rw [isName_append]
  simp_all

theorem isRegular_toDigits (n : Nat) : (Nat.toDigits 10 n).all isRegular = true :=
  List.all_eq_true.2 fun _ hc =>
    isRegular_of_isDigit (Nat.isDigit_of_mem_toDigits (by decide) (by decide) hc)

theorem isWord_ofList {cs : List Char} (hcs : cs.all isRegular = true) (hne : cs ≠ []) :
    isWord (String.ofList cs) = true := by
  simp_all [isWord, isName]

theorem isWord_nat (n : Nat) : isWord (toString n) = true := by
  rw [Nat.toString_eq_repr, Nat.repr_eq_ofList_toDigits]
  exact isWord_ofList (isRegular_toDigits n) Nat.toDigits_ne_nil

theorem isName_of_isWord {s : String} (h : isWord s = true) : isName s = true :=
  (Bool.and_eq_true_iff.1 h).2

theorem isWord_int (n : Int) : isWord (toString n) = true := by
  cases n with
  | ofNat n => exact isWord_nat n
  | negSucc n =>
    exact isWord_append (s := "-") (by decide +kernel) (isName_of_isWord (isWord_nat (n + 1)))

theorem isWord_tenths (n : Nat) : isWord ("." ++ toString n) = true :=
  isWord_append (by decide +kernel) (isName_of_isWord (isWord_nat n))

theorem isWord_signed {word : String} (h : isWord word = true) (negative : Bool) :
    isWord ((if negative then "-" else "") ++ word) = true := by
  cases negative with
  | false => rwa [if_neg (by decide), String.empty_append]
  | true => exact isWord_append (by decide +kernel) (isName_of_isWord h)

theorem isRegular_zeros (n : Nat) : (List.replicate n '0').all isRegular = true := by
  rw [List.all_replicate]
  split <;> rfl

/-- Digits with zeros before them. -/
theorem isRegular_padded (zeros n : Nat) :
    (List.replicate zeros '0' ++ Nat.toDigits 10 n).all isRegular = true := by
  rw [List.all_append, isRegular_zeros, isRegular_toDigits, Bool.and_self]

theorem isWord_positional (digits : Nat) (power : Int) :
    isWord (Decimal.positional digits power) = true := by
  unfold Decimal.positional
  split
  · refine isWord_ofList ?_ (by simp [Nat.toDigits_ne_nil])
    rw [List.all_append, isRegular_toDigits, isRegular_zeros, Bool.and_self]
  · refine isWord_ofList (List.all_eq_true.2 fun c hc => ?_) (by simp)
    rcases List.mem_append.1 hc with hwhole | hplaces
    · exact List.all_eq_true.1 (isRegular_padded _ digits) c (List.mem_of_mem_take hwhole)
    · rcases List.mem_cons.1 hplaces with rfl | hplaces
      · rfl
      · exact List.all_eq_true.1 (isRegular_padded _ digits) c (List.mem_of_mem_drop hplaces)

theorem isWord_millionths (n : Nat) : isWord (Decimal.millionths n) = true := by
  unfold Decimal.millionths
  refine isWord_append (isWord_append (isWord_nat _) (by decide +kernel)) ?_
  unfold isName
  rw [String.toList_ofList]
  exact isRegular_padded _ _

theorem isWord_shortestText (x : Decimal.Binary64) : isWord x.shortestText = true := by
  cases x with
  | nan => decide +kernel
  | infinite negative => cases negative <;> decide +kernel
  | finite negative significand exponent =>
    simp only [Decimal.Binary64.shortestText]
    generalize (Decimal.ReadBack.ofFinite significand exponent).shortest = decimal
    have hzero : isWord "0" = true := by decide +kernel
    split
    · exact isWord_signed hzero negative
    · exact isWord_signed (isWord_positional decimal.1 decimal.2) negative

theorem isWord_sixPlaces (x : Decimal.Binary64) : isWord x.sixPlaces = true := by
  cases x with
  | nan => decide +kernel
  | infinite negative => cases negative <;> decide +kernel
  | finite negative significand exponent =>
    simp only [Decimal.Binary64.sixPlaces]
    generalize Decimal.Binary64.scaled (significand * 1000000) 1 (-exponent) = quotient
    exact isWord_signed (isWord_millionths (Decimal.roundHalfEven quotient.1 quotient.2)) negative

/-! ## Tokens -/

section Tokens

variable {L : Type} [Length L]

mutual

/-- The pieces that a token is read as. -/
def Token.lexemes : Token L → List Lexeme
  | .symbol name => [.word true name.toList]
  | .string text => [.string (shownCodes text.toList)]
  | .procedure body => .mark '\x7b' :: (lexemes body ++ [.mark '\x7d'])
  | .length value => [.word false (Length.text value).toList]
  | .fixed value => [.word false (Length.sixPlaces value).toList]
  | .integer value => [.word false (toString value).toList]
  | .tenths value => [.word false ("." ++ toString value).toList]
  | .op operator => [.word false operator.name.toList]
  | .call name => [.word false name.toList]

def lexemes : List (Token L) → List Lexeme
  | [] => []
  | t :: ts => t.lexemes ++ lexemes ts

end

mutual

/-- The names in a token can be read. -/
def Token.isReadable : Token L → Bool
  | .symbol name => isName name
  | .call name => isWord name
  | .procedure body => areReadable body
  | _ => true

def areReadable : List (Token L) → Bool
  | [] => true
  | t :: ts => t.isReadable && areReadable ts

end

/-- Lengths are written as words. -/
class WritesWords (L : Type) [Length L] : Prop where
  text : ∀ x : L, isWord (Length.text x) = true
  sixPlaces : ∀ x : L, isWord (Length.sixPlaces x) = true

instance : WritesWords Float where
  text x := isWord_shortestText (Decimal.Binary64.ofFloat x)
  sixPlaces x := isWord_sixPlaces (Decimal.Binary64.ofFloat x)

/-- Whatever follows a token, if it ends words, the token is read as its pieces. -/
def ReadsAs (text : String) (found : List Lexeme) : Prop :=
  ∀ {d : Char} (rest : List Char), isRegular d = false →
    readFrom .between (text.toList ++ d :: rest) =
      (readFrom .between (d :: rest)).map (found ++ ·)

theorem readsAs_word {word : String} (h : isWord word = true) :
    ReadsAs word [.word false word.toList] := fun _ hd => readFrom_isWord h hd

theorem isWord_operator (o : Operator) : isWord o.name = true := by
  cases o <;> decide +kernel

theorem readFrom_mark {c : Char} (hc : c = '\x7b' ∨ c = '\x7d') (cs : List Char) :
    readFrom .between (c :: cs) = (readFrom .between cs).map (.mark c :: ·) := by
  rcases hc with rfl | rfl <;> rfl

theorem readFrom_space {c : Char} (hc : isSpace c = true) (cs : List Char) :
    readFrom .between (c :: cs) = readFrom .between cs := by
  simp [readFrom, readNext, begins, hc]

mutual

theorem Token.readsAs [WritesWords L] (t : Token L) (h : t.isReadable = true) :
    ReadsAs t.text t.lexemes := by
  cases t with
  | length value => exact readsAs_word (WritesWords.text value)
  | fixed value => exact readsAs_word (WritesWords.sixPlaces value)
  | integer value => exact readsAs_word (isWord_int value)
  | tenths value => exact readsAs_word (isWord_tenths value)
  | op operator => exact readsAs_word (isWord_operator operator)
  | call name => exact readsAs_word h
  | symbol name =>
    intro d rest hd
    rw [Token.text, String.toList_append]
    exact readFrom_isName h hd
  | string text =>
    intro d rest hd
    have hchars : (Token.text (.string text : Token L)).toList ++ d :: rest =
        '(' :: (text.toList.flatMap escapeChar ++ ')' :: d :: rest) := by
      simp [Token.text, escape]
    rw [hchars]
    show (readFrom (.string [] 0 .plain) _).map ([] ++ ·) = _
    rw [readFrom_string (scanString_shown text.toList (d :: rest)) []]
    exact map_nil_append _
  | procedure body =>
    intro d rest hd
    have hchars : (Token.text (.procedure body)).toList ++ d :: rest =
        '\x7b' :: ((spaced (texts body)).toList ++ '\x7d' :: d :: rest) := by
      simp [Token.text]
    rw [hchars, readFrom_mark (.inl rfl), readsAs_spaced body h (d :: rest) (by decide),
      readFrom_mark (.inr rfl), Option.map_map, Option.map_map]
    congr 1
    funext found
    simp [Token.lexemes]

theorem readsAs_spaced [WritesWords L] (ts : List (Token L)) (h : areReadable ts = true) :
    ReadsAs (spaced (texts ts)) (lexemes ts) := by
  match ts with
  | [] =>
    intro d rest _
    exact (map_nil_append _).symm
  | [t] =>
    intro d rest hd
    rw [lexemes, lexemes, List.append_nil]
    exact t.readsAs (Bool.and_eq_true_iff.1 h).1 rest hd
  | t :: t' :: ts =>
    obtain ⟨ht, hts⟩ := Bool.and_eq_true_iff.1 h
    intro d rest hd
    have hchars : (spaced (texts (t :: t' :: ts))).toList ++ d :: rest =
        t.text.toList ++ ' ' :: ((spaced (texts (t' :: ts))).toList ++ d :: rest) := by
      simp [texts, spaced]
    rw [hchars, t.readsAs ht _ (by decide), readFrom_space (by decide),
      readsAs_spaced (t' :: ts) hts rest hd, Option.map_map]
    congr 1
    funext found
    simp [lexemes]

end

/-! ## Rows -/

/-- The names in a row can be read, and comments end with it. -/
def Row.isReadable : Row L → Bool
  | .header => true
  | .comment text => text.toList.all (!isLineEnd ·)
  | .code tokens => areReadable tokens

theorem lexemes_append (ts us : List (Token L)) :
    lexemes (ts ++ us) = lexemes ts ++ lexemes us := by
  induction ts with
  | nil => rfl
  | cons t ts ih => rw [List.cons_append, lexemes, ih, lexemes, List.append_assoc]

/-- A comment goes on to the end of its line. -/
theorem readFrom_comment (hcs : cs.all (!isLineEnd ·) = true) :
    readFrom .comment (cs ++ '\n' :: rest) = readFrom .between rest := by
  induction cs with
  | nil => exact map_nil_append _
  | cons c cs ih =>
    obtain ⟨hc, hcs⟩ := Bool.and_eq_true_iff.1 hcs
    have hnext : readFrom .comment (c :: (cs ++ '\n' :: rest)) =
        readFrom .comment (cs ++ '\n' :: rest) := by
      simp_all [readFrom, readNext]
    rw [List.cons_append, hnext, ih hcs]

theorem readFrom_percent (cs : List Char) : readFrom .between ('%' :: cs) = readFrom .comment cs :=
  map_nil_append _

theorem readFrom_row [WritesWords L] (r : Row L) (h : r.isReadable = true) (rest : List Char) :
    readFrom .between (r.text.toList ++ rest) =
      (readFrom .between rest).map (lexemes r.tokens ++ ·) := by
  cases r with
  | header =>
    have hends : "!PS-Adobe-1.0".toList.all (!isLineEnd ·) = true := by decide +kernel
    have hchars : (Row.header : Row L).text.toList ++ rest =
        '%' :: ("!PS-Adobe-1.0".toList ++ '\n' :: rest) := by
      simp [Row.text]
    rw [hchars, readFrom_percent, readFrom_comment hends]
    exact (map_nil_append _).symm
  | comment text =>
    have hchars : (Row.comment text : Row L).text.toList ++ rest =
        '%' :: ('%' :: text.toList ++ '\n' :: rest) := by
      simp [Row.text]
    have hends : ('%' :: text.toList).all (!isLineEnd ·) = true := h
    rw [hchars, readFrom_percent, readFrom_comment hends]
    exact (map_nil_append _).symm
  | code tokens =>
    have hchars : (Row.code tokens).text.toList ++ rest =
        (spaced (texts tokens)).toList ++ '\n' :: rest := by
      simp [Row.text]
    rw [hchars, readsAs_spaced tokens h rest (by decide), readFrom_space (by decide)]
    rfl

/-- Rows are read as their tokens. -/
theorem readCode?_rows [WritesWords L] {rows : List (Row L)} (h : rows.all Row.isReadable = true) :
    readCode? (rowsText rows) = some (lexemes (tokens rows)) := by
  unfold readCode? rowsText
  induction rows with
  | nil => rfl
  | cons r rows ih =>
    obtain ⟨hr, hrows⟩ := Bool.and_eq_true_iff.1 h
    rw [List.map_cons, String.join_cons, String.toList_append, readFrom_row r hr, ih hrows,
      Option.map_some, ← lexemes_append]
    rfl

end Tokens

end Songbook.PostScript
