import SupervisorRelay.Library.JsonLexing
import SupervisorRelay.Library.SerdeJson

/-! Compact text from outside: one line, with nothing to trim at its ends. -/
namespace JsonText

open Json (FloatFree IsInteger)
open SerdeJson (Framed Printable)

variable {floats : FloatText}

theorem printable_of_all {text : List Char}
    (h : text.all (fun c => decide (0x20 ≤ c.toNat)) = true) : Printable text := by
  simpa [Printable] using h

theorem printable_hexDigit : ∀ value < 16, 0x20 ≤ (hexDigit value).toNat := by
  decide

theorem printable_escape (c : Char) : Printable (escape c) := by
  unfold escape
  split
  · exact printable_of_all rfl
  split
  · exact printable_of_all rfl
  split
  · exact printable_of_all rfl
  split
  · exact printable_of_all rfl
  split
  · exact printable_of_all rfl
  split
  · exact printable_of_all rfl
  split
  · exact printable_of_all rfl
  split
  · rename_i hcontrol
    have hhigh := printable_hexDigit (c.toNat / 16) (by omega)
    have hlow := printable_hexDigit (c.toNat % 16) (by omega)
    intro other hmem
    simp only [List.mem_cons, List.not_mem_nil, or_false] at hmem
    rcases hmem with rfl | rfl | rfl | rfl | rfl | rfl
    · decide
    · decide
    · decide
    · decide
    · exact hhigh
    · exact hlow
  · rename_i hcontrol
    intro other hmem
    rw [List.mem_singleton.mp hmem]
    omega

theorem printable_renderString (value : String) : Printable (renderString value) := by
  intro c hmem
  rw [renderString, List.mem_cons, List.mem_append, List.mem_flatMap] at hmem
  rcases hmem with rfl | ⟨source, -, hescape⟩ | hquote
  · decide
  · exact printable_escape source c hescape
  · rw [List.mem_singleton.mp hquote]
    decide

theorem isNumberChar_visible {c : Char} (h : isNumberChar c = true) : c.Visible := by
  unfold isNumberChar at h
  simp only [Bool.or_eq_true, beq_iff_eq] at h
  rcases h with ((((hdigit | rfl) | rfl) | rfl) | rfl) | rfl
  · obtain ⟨hlow, hhigh⟩ := Char.isDigit_iff_toNat.mp hdigit
    change 48 ≤ c.toNat at hlow
    change c.toNat ≤ 57 at hhigh
    unfold Char.Visible
    omega
  · decide
  · decide
  · decide
  · decide
  · decide

theorem visible_of_all {text : List Char} (h : text.all (fun c => decide (c.Visible)) = true) :
    ∀ c ∈ text, c.Visible := by
  simpa using h

theorem framed_of_visible {text : List Char} (hne : text ≠ []) (h : ∀ c ∈ text, c.Visible) :
    Framed text := by
  constructor
  · obtain ⟨c, more, rfl⟩ := List.exists_cons_of_ne_nil hne
    exact ⟨c, more, rfl, h c List.mem_cons_self⟩
  · obtain ⟨init, c, rfl⟩ := (List.eq_nil_or_concat text).resolve_left hne
    exact ⟨init, c, List.concat_eq_append, h c (by simp)⟩

theorem framed_append {text more : List Char} (h : Framed text) (hmore : Framed more) :
    Framed (text ++ more) := by
  obtain ⟨first, rest, rfl, hfirst⟩ := h.first
  obtain ⟨init, last, rfl, hlast⟩ := hmore.last
  exact ⟨⟨first, rest ++ (init ++ [last]), rfl, hfirst⟩,
    ⟨first :: rest ++ init, last, by simp, hlast⟩⟩

theorem renderNumber_visible {number : JsonNumber} (h : IsInteger number) :
    ∀ c ∈ renderNumber floats number, c.Visible := by
  obtain ⟨first, more, hshape, hfirst, hmore⟩ :
      ∃ first more, renderNumber floats number = first :: more ∧ _ := renderNumber_shape h
  rw [hshape]
  intro c hmem
  refine isNumberChar_visible ?_
  rcases List.mem_cons.mp hmem with rfl | hmem
  · rcases hfirst with rfl | hdigit
    · rfl
    · exact isNumberChar_digit hdigit
  · exact hmore c hmem

/-- Every token but a string is nothing but ink. -/
theorem Token.render_visible {token : Token} (hplain : token.IsPlain)
    (hstring : ∀ value, token ≠ .string value) :
    token.render floats ≠ [] ∧ ∀ c ∈ token.render floats, c.Visible := by
  have hconstant {text : List Char} (htext : token.render floats = text) (hne : text ≠ [])
      (hvisible : ∀ c ∈ text, c.Visible) :
      token.render floats ≠ [] ∧ ∀ c ∈ token.render floats, c.Visible := by
    rw [htext]
    exact ⟨hne, hvisible⟩
  cases token with
  | number value =>
      obtain ⟨first, more, hshape, -⟩ :
          ∃ first more, renderNumber floats value = first :: more ∧ _ := renderNumber_shape hplain
      refine ⟨fun hnil => ?_, renderNumber_visible hplain⟩
      cases hshape.symm.trans hnil
  | string value => exact absurd rfl (hstring value)
  | null =>
      exact hconstant (show _ = ['n', 'u', 'l', 'l'] from rfl) (by decide) (visible_of_all rfl)
  | bool value =>
      cases value with
      | true =>
          exact hconstant (show _ = ['t', 'r', 'u', 'e'] from rfl) (by decide)
            (visible_of_all rfl)
      | false =>
          exact hconstant (show _ = ['f', 'a', 'l', 's', 'e'] from rfl) (by decide)
            (visible_of_all rfl)
  | lbrace => exact hconstant (show _ = ['{'] from rfl) (by decide) (visible_of_all rfl)
  | rbrace => exact hconstant (show _ = ['}'] from rfl) (by decide) (visible_of_all rfl)
  | lbracket => exact hconstant (show _ = ['['] from rfl) (by decide) (visible_of_all rfl)
  | rbracket => exact hconstant (show _ = [']'] from rfl) (by decide) (visible_of_all rfl)
  | comma => exact hconstant (show _ = [','] from rfl) (by decide) (visible_of_all rfl)
  | colon => exact hconstant (show _ = [':'] from rfl) (by decide) (visible_of_all rfl)

theorem Token.render_line {token : Token} (hplain : token.IsPlain) :
    Printable (token.render floats) ∧ Framed (token.render floats) := by
  by_cases hstring : ∃ value, token = .string value
  · obtain ⟨value, rfl⟩ := hstring
    exact ⟨printable_renderString value, ⟨'"', _, rfl, by decide⟩,
      ⟨'"' :: value.toList.flatMap escape, '"', rfl, by decide⟩⟩
  · push Not at hstring
    obtain ⟨hne, hvisible⟩ : token.render floats ≠ [] ∧ _ := Token.render_visible hplain hstring
    exact ⟨fun c hmem => le_of_lt (hvisible c hmem).1, framed_of_visible hne hvisible⟩

theorem render_framed {row : List Token} (hne : row ≠ [])
    (hplain : ∀ token ∈ row, token.IsPlain) : Framed (render floats row) := by
  induction row with
  | nil => exact absurd rfl hne
  | cons token rest ih =>
      have htoken : Framed (token.render floats) :=
        (Token.render_line (hplain token List.mem_cons_self)).2
      change Framed (token.render floats ++ render floats rest)
      cases rest with
      | nil => simpa [render] using htoken
      | cons next rest =>
          exact framed_append htoken (ih (by simp) fun other hmem =>
            hplain other (List.mem_cons_of_mem token hmem))

theorem tokens_ne_nil (value : Json) : tokens value ≠ [] := by
  cases value <;> simp [tokens]

theorem toString_printable {value : Json} (h : FloatFree value) :
    Printable (toString floats value).toList := by
  intro c hmem
  rw [toString, String.toList_ofList, render, List.mem_flatMap] at hmem
  obtain ⟨token, htoken, hc⟩ := hmem
  exact (Token.render_line (plain_tokens value h token htoken)).1 c hc

theorem toString_framed {value : Json} (h : FloatFree value) :
    Framed (toString floats value).toList := by
  rw [toString, String.toList_ofList]
  exact render_framed (tokens_ne_nil value) (plain_tokens value h)

end JsonText
