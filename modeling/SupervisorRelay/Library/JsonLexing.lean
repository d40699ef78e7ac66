import Mathlib.Data.List.TakeWhile
import SupervisorRelay.Library.JsonText

/-! What the lexer finds in compact text: the tokens that it was written from. A number
or a word must be followed by something that cannot continue it. -/
namespace JsonText

open Json (FloatFree FloatFreeItems FloatFreeMembers IsInteger Members)

variable {floats : FloatText} {mode next : LexMode} {c : Char} {rest : List Char}

/-- A character that ends no token and is one. -/
theorem lex_silent (h : mode.step floats c = some ([], next)) :
    lex floats mode (c :: rest) = lex floats next rest := by
  rw [lex, h]
  simp

theorem lex_emit {row : List Token} (h : mode.step floats c = some (row, next)) :
    lex floats mode (c :: rest) = (lex floats next rest).map (row ++ ·) := by
  rw [lex, h]
  simp only [bind, Option.bind_some]
  cases lex floats next rest <;> rfl

/-- What follows can continue no number and no word. -/
def Delimited (rest : List Char) : Prop :=
  ∀ c ∈ rest.head?, isNumberChar c = false ∧ c.isAlpha = false

theorem Delimited.cons (h : isNumberChar c = false ∧ c.isAlpha = false) :
    Delimited (c :: rest) := by
  intro other hmem
  cases hmem
  exact h

/-! Strings. -/

theorem hexValue_hexDigit : ∀ value < 16, hexValue (hexDigit value) = some value := by
  decide

theorem lex_string {mode next : StringMode} {read : List Char} {out : Option Char}
    (h : mode.step c = .next next out) :
    lex floats (.string mode read) (c :: rest) =
      lex floats (.string next (out.toList ++ read)) rest := by
  refine lex_silent ?_
  rw [LexMode.step, h]

theorem lex_pair {read : List Char} {escaped : Char} (h : simpleEscape escaped = some c) :
    lex floats (.string .plain read) ('\\' :: escaped :: rest) =
      lex floats (.string .plain (c :: read)) rest := by
  have hescaped : StringMode.step .escaped escaped = .next .plain (some c) := by
    rw [StringMode.step, h]
  rw [lex_string (show StringMode.step .plain '\\' = .next .escaped none from rfl),
    lex_string hescaped]
  rfl

theorem lex_hex {read : List Char} {missing value digit : Nat} {high : Option Nat}
    (h : hexValue c = some digit) :
    lex floats (.string (.hex (missing + 1) value high) read) (c :: rest) =
      lex floats (.string (.hex missing (value * 16 + digit) high) read) rest := by
  have hstep : StringMode.step (.hex (missing + 1) value high) c =
      .next (.hex missing (value * 16 + digit) high) none := by
    rw [StringMode.step, h]
  rw [lex_string hstep]
  rfl

/-- A control character is written with its two lower digits. -/
theorem lex_control (hcontrol : c.toNat < 0x20) (read : List Char) :
    lex floats (.string .plain read)
        ('\\' :: 'u' :: '0' :: '0' :: hexDigit (c.toNat / 16) :: hexDigit (c.toNat % 16) :: rest) =
      lex floats (.string .plain (c :: read)) rest := by
  have hlast : StringMode.step (.hex 0 (c.toNat / 16) none) (hexDigit (c.toNat % 16)) =
      .next .plain (some c) := by
    rw [StringMode.step, hexValue_hexDigit _ (by omega)]
    change codeUnit (c.toNat / 16 * 16 + c.toNat % 16) none = _
    rw [Nat.div_add_mod', codeUnit, if_neg (by omega), if_neg (by omega), Char.ofNat_toNat]
  rw [lex_string (show StringMode.step .plain '\\' = .next .escaped none from rfl),
    lex_string (show StringMode.step .escaped 'u' = .next (.hex 3 0 none) none from rfl),
    lex_hex (show hexValue '0' = some 0 from rfl), lex_hex (show hexValue '0' = some 0 from rfl),
    lex_hex (hexValue_hexDigit _ (by omega))]
  simp only [Nat.zero_mul, Nat.zero_add]
  rw [lex_string hlast]
  rfl

/-- An escaped character is read back, whatever was read before it. -/
theorem lex_escape (c : Char) (read rest : List Char) :
    lex floats (.string .plain read) (escape c ++ rest) =
      lex floats (.string .plain (c :: read)) rest := by
  unfold escape
  split
  · subst c
    exact lex_pair rfl
  split
  · subst c
    exact lex_pair rfl
  split
  · subst c
    exact lex_pair rfl
  split
  · subst c
    exact lex_pair rfl
  split
  · subst c
    exact lex_pair rfl
  split
  · subst c
    exact lex_pair rfl
  split
  · subst c
    exact lex_pair rfl
  split
  · rename_i hcontrol
    exact lex_control hcontrol read
  · rename_i hquote hbackslash _ _ _ _ _ hcontrol
    have hstep : StringMode.step .plain c = .next .plain (some c) := by
      rw [StringMode.step, if_neg hquote, if_neg hbackslash, if_neg hcontrol]
    exact lex_string hstep

theorem lex_characters (text read rest : List Char) :
    lex floats (.string .plain read) (text.flatMap escape ++ '"' :: rest) =
      (lex floats .between rest).map ([.string (String.ofList (read.reverse ++ text))] ++ ·) := by
  induction text generalizing read with
  | nil =>
      rw [List.append_nil]
      exact lex_emit rfl
  | cons c text ih =>
      rw [List.flatMap_cons, List.append_assoc, lex_escape, ih]
      simp

theorem lex_renderString (value : String) (rest : List Char) :
    lex floats .between (renderString value ++ rest) =
      (lex floats .between rest).map (.string value :: ·) := by
  rw [renderString, List.cons_append, List.append_assoc,
    lex_silent (show LexMode.step floats .between '"' = some ([], .string .plain []) from rfl)]
  change lex floats (.string .plain []) (value.toList.flatMap escape ++ '"' :: rest) = _
  rw [lex_characters]
  simp

/-! Numbers. -/

/-- Digits, first the most significant, with no zero before another one. -/
theorem toDigits_head (value : Nat) :
    (Nat.toDigits 10 value).head? = some '0' → value = 0 := by
  induction value using Nat.strongRecOn with
  | ind value ih =>
      rw [Nat.toDigits_eq_if (by decide)]
      split
      · rename_i hsmall
        intro h
        have hdigit : ∀ digit < 10, digit.digitChar = '0' → digit = 0 := by decide
        exact hdigit value hsmall (by simpa using h)
      · rename_i hlarge
        intro h
        rw [List.head?_append_of_ne_nil _ Nat.toDigits_ne_nil] at h
        have hzero := ih (value / 10) (by omega) h
        omega

theorem toDigits_isDigit {value : Nat} {c : Char} (hmem : c ∈ Nat.toDigits 10 value) :
    c.isDigit = true :=
  Nat.isDigit_of_mem_toDigits (by decide) (by decide) hmem

theorem readUnsigned_toDigits (text : List Char) (negative : Bool) (value : Nat) :
    readUnsigned floats text negative (Nat.toDigits 10 value) =
      readInteger floats text negative value := by
  have htake : (Nat.toDigits 10 value).takeWhile Char.isDigit = Nat.toDigits 10 value :=
    List.takeWhile_eq_self_iff.mpr fun c hmem => toDigits_isDigit hmem
  have hdrop : (Nat.toDigits 10 value).dropWhile Char.isDigit = [] :=
    List.dropWhile_eq_nil_iff.mpr fun c hmem => toDigits_isDigit hmem
  have hzero : ¬(Nat.toDigits 10 value = [] ∨
      ((Nat.toDigits 10 value).head? = some '0' ∧ (Nat.toDigits 10 value).length ≠ 1)) := by
    rintro (hnil | ⟨hhead, hlength⟩)
    · exact Nat.toDigits_ne_nil hnil
    · rw [toDigits_head value hhead] at hlength
      exact hlength rfl
  unfold readUnsigned
  rw [htake, hdrop]
  dsimp only
  rw [if_neg hzero, if_pos rfl, Nat.ofDigitChars_ten_toDigits]

theorem readNumber_digits {text : List Char} (hne : text ≠ [])
    (hdigits : ∀ c ∈ text, c.isDigit = true) :
    readNumber floats text = readUnsigned floats text false text := by
  cases text with
  | nil => exact absurd rfl hne
  | cons c rest =>
      have hc : c ≠ '-' := by
        rintro rfl
        have hminus := hdigits '-' List.mem_cons_self
        revert hminus
        decide
      unfold readNumber
      split
      · rename_i heq
        cases heq
        exact absurd rfl hc
      · rfl

theorem readNumber_renderNumber {number : JsonNumber} (h : IsInteger number) :
    readNumber floats (renderNumber floats number) = some number := by
  cases number with
  | posInt value =>
      have hlt : value.toNat < 2 ^ 64 := value.toNat_lt
      rw [renderNumber, readNumber_digits Nat.toDigits_ne_nil fun c hmem => toDigits_isDigit hmem,
        readUnsigned_toDigits, readInteger, if_neg Bool.false_ne_true, if_pos hlt,
        UInt64.ofNat_toNat]
  | negInt value =>
      have hneg : value.toInt < 0 := h
      have hmin := value.le_toInt
      have hrange : 0 < value.toInt.natAbs ∧ value.toInt.natAbs ≤ 2 ^ 63 := by omega
      have habs : -(value.toInt.natAbs : Int) = value.toInt := by omega
      rw [renderNumber, if_pos hneg]
      change readUnsigned floats _ true _ = _
      rw [readUnsigned_toDigits, readInteger, if_pos rfl, if_pos hrange, habs,
        Int64.ofInt_toInt]
  | float bits => cases h

theorem isNumberChar_digit {c : Char} (h : c.isDigit = true) : isNumberChar c = true := by
  simp [isNumberChar, h]

/-- A number is written with number characters, and starts like one. -/
theorem renderNumber_shape {number : JsonNumber} (h : IsInteger number) :
    ∃ first more, renderNumber floats number = first :: more ∧
      (first = '-' ∨ first.isDigit = true) ∧ ∀ c ∈ more, isNumberChar c = true := by
  have hdigits (value : Nat) : ∀ c ∈ Nat.toDigits 10 value, isNumberChar c = true :=
    fun c hmem => isNumberChar_digit (toDigits_isDigit hmem)
  cases number with
  | posInt value =>
      obtain ⟨first, more, hcons⟩ : ∃ first more, Nat.toDigits 10 value.toNat = first :: more :=
        List.exists_cons_of_ne_nil Nat.toDigits_ne_nil
      have hsame : ∀ c ∈ first :: more, c ∈ Nat.toDigits 10 value.toNat := by
        rw [hcons]
        exact fun c hmem => hmem
      exact ⟨first, more, hcons, .inr (toDigits_isDigit (hsame first List.mem_cons_self)),
        fun c hmem => hdigits _ c (hsame c (List.mem_cons_of_mem first hmem))⟩
  | negInt value =>
      have hneg : value.toInt < 0 := h
      rw [renderNumber, if_pos hneg]
      exact ⟨'-', _, rfl, .inl rfl, hdigits _⟩
  | float bits => cases h

theorem lexBetween_number {first : Char} (h : first = '-' ∨ first.isDigit = true) :
    lexBetween first = some ([], .number [first]) := by
  rcases h with rfl | hdigit
  · rfl
  · have hother : ∀ c, c.isDigit = false → first ≠ c := by
      rintro c hc rfl
      rw [hc] at hdigit
      cases hdigit
    unfold lexBetween
    simp [hdigit, hother ' ' rfl, hother '\n' rfl, hother '\t' rfl, hother '\r' rfl,
      hother '{' rfl, hother '}' rfl, hother '[' rfl, hother ']' rfl, hother ',' rfl,
      hother ':' rfl, hother '"' rfl]

theorem lex_numberChars {text : List Char} (htext : ∀ c ∈ text, isNumberChar c = true)
    (read rest : List Char) :
    lex floats (.number read) (text ++ rest) =
      lex floats (.number (text.reverse ++ read)) rest := by
  induction text generalizing read with
  | nil => rfl
  | cons c text ih =>
      have hstep : LexMode.step floats (.number read) c = some ([], .number (c :: read)) := by
        rw [LexMode.step, if_pos (htext c List.mem_cons_self)]
      rw [List.cons_append, lex_silent hstep, ih fun other hmem =>
        htext other (List.mem_cons_of_mem c hmem)]
      simp

/-- A token that was read is emitted before whatever comes next. -/
theorem lex_finished {token : Token} (hfinish : mode.finish floats = some [token])
    (hstep : ∀ c, isNumberChar c = false ∧ c.isAlpha = false →
      mode.step floats c = (lexBetween c).map fun found => (token :: found.1, found.2))
    (hrest : Delimited rest) :
    lex floats mode rest = (lex floats .between rest).map (token :: ·) := by
  cases rest with
  | nil =>
      rw [lex, hfinish]
      rfl
  | cons c rest =>
      rw [lex, lex, hstep c (hrest c rfl)]
      change _ = Option.map _ (lexBetween c >>= _)
      cases lexBetween c with
      | none => rfl
      | some found =>
          cases hothers : lex floats found.2 rest <;> simp [hothers]

theorem lex_renderNumber {number : JsonNumber} (h : IsInteger number) (hrest : Delimited rest) :
    lex floats .between (renderNumber floats number ++ rest) =
      (lex floats .between rest).map (.number number :: ·) := by
  obtain ⟨first, more, hshape, hfirst, hmore⟩ :
      ∃ first more, renderNumber floats number = first :: more ∧ _ := renderNumber_shape h
  have hread : readNumber floats (more.reverse ++ [first]).reverse = some number := by
    rw [List.reverse_append, List.reverse_reverse]
    change readNumber floats (first :: more) = some number
    rw [← hshape, readNumber_renderNumber h]
  rw [hshape, List.cons_append, lex_silent (show LexMode.step floats .between first = _ from
    lexBetween_number hfirst), lex_numberChars hmore]
  refine lex_finished ?_ (fun c hc => ?_) hrest
  · rw [LexMode.finish, hread]
    rfl
  · rw [LexMode.step, if_neg (by simp [hc.1]), hread]
    cases lexBetween c <;> rfl

/-! Words. -/

theorem lex_letters {text : List Char} (htext : ∀ c ∈ text, c.isAlpha = true)
    (read rest : List Char) :
    lex floats (.word read) (text ++ rest) = lex floats (.word (text.reverse ++ read)) rest := by
  induction text generalizing read with
  | nil => rfl
  | cons c text ih =>
      have hstep : LexMode.step floats (.word read) c = some ([], .word (c :: read)) := by
        rw [LexMode.step, if_pos (htext c List.mem_cons_self)]
      rw [List.cons_append, lex_silent hstep, ih fun other hmem =>
        htext other (List.mem_cons_of_mem c hmem)]
      simp

theorem lex_word {first : Char} {more : List Char} {token : Token}
    (hfirst : lexBetween first = some ([], .word [first]))
    (hmore : ∀ c ∈ more, c.isAlpha = true) (hword : readWord (first :: more) = some token)
    (hrest : Delimited rest) :
    lex floats .between (first :: more ++ rest) =
      (lex floats .between rest).map (token :: ·) := by
  have hread : readWord (more.reverse ++ [first]).reverse = some token := by
    rw [List.reverse_append, List.reverse_reverse]
    exact hword
  rw [List.cons_append, lex_silent (show LexMode.step floats .between first = _ from hfirst),
    lex_letters hmore]
  refine lex_finished ?_ (fun c hc => ?_) hrest
  · rw [LexMode.finish, hread]
    rfl
  · rw [LexMode.step, if_neg (by simp [hc.2]), hread]
    cases lexBetween c <;> rfl

/-! Tokens and values. -/

theorem lex_punctuation {token : Token} (h : lexBetween c = some ([token], .between)) :
    lex floats .between (c :: rest) = (lex floats .between rest).map (token :: ·) :=
  lex_emit (show LexMode.step floats .between c = _ from h)

/-- Tokens that an integer-only value is made of. -/
def Token.IsPlain : Token → Prop
  | number value => IsInteger value
  | _ => True

/-- Tokens that could run into one another. -/
def Token.isScalar : Token → Bool
  | null | bool _ | number _ => true
  | _ => false

theorem lex_render {token : Token} (hplain : token.IsPlain)
    (hrest : token.isScalar = true → Delimited rest) :
    lex floats .between (token.render floats ++ rest) =
      (lex floats .between rest).map (token :: ·) := by
  cases token with
  | number value => exact lex_renderNumber hplain (hrest rfl)
  | string value => exact lex_renderString value rest
  | null => exact lex_word rfl (List.all_eq_true.mp rfl) rfl (hrest rfl)
  | bool value =>
      cases value with
      | true => exact lex_word rfl (List.all_eq_true.mp rfl) rfl (hrest rfl)
      | false => exact lex_word rfl (List.all_eq_true.mp rfl) rfl (hrest rfl)
  | lbrace => exact lex_punctuation rfl
  | rbrace => exact lex_punctuation rfl
  | lbracket => exact lex_punctuation rfl
  | rbracket => exact lex_punctuation rfl
  | comma => exact lex_punctuation rfl
  | colon => exact lex_punctuation rfl

theorem delimited_render {token : Token} (h : token.isScalar = false) (more : List Char) :
    Delimited (token.render floats ++ more) := by
  cases token with
  | null => cases h
  | bool value => cases h
  | number value => cases h
  | string value => exact Delimited.cons (by decide)
  | lbrace => exact Delimited.cons (by decide)
  | rbrace => exact Delimited.cons (by decide)
  | lbracket => exact Delimited.cons (by decide)
  | rbracket => exact Delimited.cons (by decide)
  | comma => exact Delimited.cons (by decide)
  | colon => exact Delimited.cons (by decide)

/-- No two tokens in a row that could run into one another. -/
def Spaced : List Token → Prop
  | [] => True
  | token :: rest =>
      (token.isScalar = true → ∀ next ∈ rest.head?, next.isScalar = false) ∧ Spaced rest

theorem lex_row {row : List Token} (hspaced : Spaced row)
    (hplain : ∀ token ∈ row, token.IsPlain) :
    lex floats .between (render floats row) = some row := by
  induction row with
  | nil => rfl
  | cons token row ih =>
      have hrest : token.isScalar = true → Delimited (render floats row) := by
        intro hscalar
        cases row with
        | nil =>
            intro c hmem
            cases hmem
        | cons next row => exact delimited_render (hspaced.1 hscalar next rfl) _
      change lex floats .between (token.render floats ++ render floats row) = _
      rw [lex_render (hplain token List.mem_cons_self) hrest,
        ih hspaced.2 fun other hmem => hplain other (List.mem_cons_of_mem token hmem)]
      rfl

theorem Spaced.cons {token : Token} {rest : List Token} (h : token.isScalar = false)
    (hrest : Spaced rest) : Spaced (token :: rest) := by
  refine ⟨fun hscalar => ?_, hrest⟩
  rw [h] at hscalar
  cases hscalar

/-- Punctuation, or the end. -/
def Fresh (rest : List Token) : Prop :=
  Spaced rest ∧ ∀ next ∈ rest.head?, next.isScalar = false

theorem Fresh.cons {token : Token} {rest : List Token} (h : token.isScalar = false)
    (hrest : Spaced rest) : Fresh (token :: rest) := by
  refine ⟨hrest.cons h, ?_⟩
  rintro next ⟨⟩
  exact h

mutual

theorem spaced_tokens {rest : List Token} (hrest : Fresh rest) :
    (value : Json) → Spaced (tokens value ++ rest)
  | .null => ⟨fun _ => hrest.2, hrest.1⟩
  | .bool _ => ⟨fun _ => hrest.2, hrest.1⟩
  | .number _ => ⟨fun _ => hrest.2, hrest.1⟩
  | .string _ => hrest.1.cons rfl
  | .array items => (spaced_itemTokens hrest.1 items).cons rfl
  | .object members => (spaced_memberTokens hrest.1 members).cons rfl

theorem spaced_itemTokens {rest : List Token} (hrest : Spaced rest) :
    (items : List Json) → Spaced (itemTokens items ++ rest)
  | [] => hrest.cons rfl
  | item :: items => by
      rw [itemTokens, List.append_assoc]
      exact spaced_tokens (fresh_moreItems hrest items) item

theorem fresh_moreItems {rest : List Token} (hrest : Spaced rest) :
    (items : List Json) → Fresh (moreItems items ++ rest)
  | [] => Fresh.cons rfl hrest
  | item :: items => by
      rw [moreItems, List.cons_append, List.append_assoc]
      exact Fresh.cons rfl (spaced_tokens (fresh_moreItems hrest items) item)

theorem spaced_memberTokens {rest : List Token} (hrest : Spaced rest) :
    (members : List (String × Json)) → Spaced (memberTokens members ++ rest)
  | [] => hrest.cons rfl
  | (key, value) :: members => by
      rw [memberTokens, List.cons_append, List.cons_append, List.append_assoc]
      exact ((spaced_tokens (fresh_moreMembers hrest members) value).cons rfl).cons rfl

theorem fresh_moreMembers {rest : List Token} (hrest : Spaced rest) :
    (members : List (String × Json)) → Fresh (moreMembers members ++ rest)
  | [] => Fresh.cons rfl hrest
  | (key, value) :: members => by
      rw [moreMembers, List.cons_append, List.cons_append, List.cons_append, List.append_assoc]
      exact Fresh.cons rfl
        (((spaced_tokens (fresh_moreMembers hrest members) value).cons rfl).cons rfl)

end

mutual

/-- A value without floats is made of plain tokens. -/
theorem plain_tokens : (value : Json) → FloatFree value → ∀ token ∈ tokens value, token.IsPlain
  | .null, h => List.forall_mem_singleton.mpr h
  | .bool _, h => List.forall_mem_singleton.mpr h
  | .number _, h => List.forall_mem_singleton.mpr h
  | .string _, h => List.forall_mem_singleton.mpr h
  | .array items, h => List.forall_mem_cons.mpr ⟨trivial, plain_itemTokens items h⟩
  | .object members, h => List.forall_mem_cons.mpr ⟨trivial, plain_memberTokens members h⟩

theorem plain_itemTokens : (items : List Json) → FloatFreeItems items →
    ∀ token ∈ itemTokens items, token.IsPlain
  | [], h => List.forall_mem_singleton.mpr h
  | item :: rest, h =>
      List.forall_mem_append.mpr ⟨plain_tokens item h.1, plain_moreItems rest h.2⟩

theorem plain_moreItems : (items : List Json) → FloatFreeItems items →
    ∀ token ∈ moreItems items, token.IsPlain
  | [], h => List.forall_mem_singleton.mpr h
  | item :: rest, h => by
      rw [moreItems, List.forall_mem_cons, List.forall_mem_append]
      exact ⟨trivial, plain_tokens item h.1, plain_moreItems rest h.2⟩

theorem plain_memberTokens : (members : Members) → FloatFreeMembers members →
    ∀ token ∈ memberTokens members, token.IsPlain
  | [], h => List.forall_mem_singleton.mpr h
  | (key, value) :: rest, h => by
      rw [memberTokens, List.forall_mem_cons, List.forall_mem_cons, List.forall_mem_append]
      exact ⟨trivial, trivial, plain_tokens value h.1, plain_moreMembers rest h.2⟩

theorem plain_moreMembers : (members : Members) → FloatFreeMembers members →
    ∀ token ∈ moreMembers members, token.IsPlain
  | [], h => List.forall_mem_singleton.mpr h
  | (key, value) :: rest, h => by
      rw [moreMembers, List.forall_mem_cons, List.forall_mem_cons, List.forall_mem_cons,
        List.forall_mem_append]
      exact ⟨trivial, trivial, trivial, plain_tokens value h.1, plain_moreMembers rest h.2⟩

end

/-- The lexer finds in the compact text of a value the tokens of the value. -/
theorem lex_tokens {value : Json} (h : FloatFree value) :
    lex floats .between (render floats (tokens value)) = some (tokens value) := by
  have hspaced : Spaced (tokens value ++ []) :=
    spaced_tokens (show Fresh [] from ⟨trivial, fun _ hmem => by cases hmem⟩) value
  rw [List.append_nil] at hspaced
  exact lex_row hspaced (plain_tokens value h)

end JsonText
