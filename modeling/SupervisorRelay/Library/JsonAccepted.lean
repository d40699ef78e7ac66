import SupervisorRelay.Library.JsonParsing
import SupervisorRelay.Library.JsonWriting

/-! What the reader of JSON text accepts. A property of values that the parser's own steps
keep, each at its level of nesting, holds of every value that is read. With it the writer and
the reader meet every law of `serde_json`. -/
namespace JsonText

open Json (Distinct Fits FloatFree Members Sorted depth depthLimit insertMember normalize)

variable {insert : String → Json → Members → Members}

/-- A property of values at their level, and of the members of an object while it is read. -/
structure Kept (insert : String → Json → Members → Members) (value : Nat → Json → Prop)
    (members : Nat → Members → Prop) : Prop where
  null : ∀ level ≤ depthLimit, value level .null
  bool : ∀ level ≤ depthLimit, ∀ flag, value level (.bool flag)
  number : ∀ level ≤ depthLimit, ∀ number, value level (.number number)
  string : ∀ level ≤ depthLimit, ∀ text, value level (.string text)
  array : ∀ level items, level < depthLimit → (∀ item ∈ items, value (level + 1) item) →
    value level (.array items)
  empty : ∀ level, members level []
  insert : ∀ level key stored done, members level done → value level stored →
    members level (insert key stored done)
  object : ∀ level done, level < depthLimit → members (level + 1) done → value level (.object done)

variable {value : Nat → Json → Prop} {members : Nat → Members → Prop}

/-- What lies in an open container has the property at the level inside. -/
def Frame.Keeps (value : Nat → Json → Prop) (members : Nat → Members → Prop) (level : Nat) :
    Frame → Prop
  | .array items => ∀ item ∈ items, value level item
  | .object done _ => members level done

def StackKeeps (value : Nat → Json → Prop) (members : Nat → Members → Prop) : List Frame → Prop
  | [] => True
  | frame :: stack => stack.length < depthLimit ∧ frame.Keeps value members (stack.length + 1) ∧
      StackKeeps value members stack

theorem StackKeeps.length_le {stack : List Frame} (h : StackKeeps value members stack) :
    stack.length ≤ depthLimit := by
  cases stack with
  | nil => exact Nat.zero_le _
  | cons frame stack => exact h.1

/-- The open containers, and the value once it is complete. -/
structure ParserState.Keeps (value : Nat → Json → Prop) (members : Nat → Members → Prop)
    (parser : ParserState) : Prop where
  stack : StackKeeps value members parser.stack
  finished : ∀ complete, parser.phase = .finished complete → value 0 complete

namespace ParserState

/-- Nothing is owed of a value that is not complete. -/
theorem keeps_unfinished {stack : List Frame} {phase : Phase}
    (hstack : StackKeeps value members stack) (hphase : ∀ complete, phase ≠ .finished complete) :
    ParserState.Keeps value members ⟨stack, phase⟩ :=
  ⟨hstack, fun complete hcomplete => absurd hcomplete (hphase complete)⟩

variable (h : Kept insert value members)
include h

theorem keeps_deliver {complete : Json} {stack : List Frame}
    (hstack : StackKeeps value members stack) (hvalue : value stack.length complete) :
    (deliver insert complete stack).Keeps value members := by
  cases stack with
  | nil =>
      refine ⟨trivial, fun other hother => ?_⟩
      cases hother
      exact hvalue
  | cons frame stack =>
      obtain ⟨hdepth, hframe, hrest⟩ := hstack
      cases frame with
      | array items =>
          refine keeps_unfinished ⟨hdepth, fun item hmem => ?_, hrest⟩ nofun
          rcases List.mem_cons.mp hmem with rfl | hmem
          · exact hvalue
          · exact hframe item hmem
      | object done key =>
          exact keeps_unfinished ⟨hdepth, h.insert _ _ _ _ hframe hvalue, hrest⟩ nofun

theorem keeps_startValue {stack : List Frame} {token : Token} {next : ParserState}
    (hstack : StackKeeps value members stack) (hnext : startValue insert stack token = some next) :
    next.Keeps value members := by
  have hopened {frame : Frame} {phase : Phase}
      (hframe : frame.Keeps value members (stack.length + 1))
      (hphase : ∀ complete, phase ≠ .finished complete)
      (hnext : opened frame phase stack = some next) : next.Keeps value members := by
    unfold opened at hnext
    split at hnext
    · rename_i hdepth
      cases hnext
      exact keeps_unfinished ⟨hdepth, hframe, hstack⟩ hphase
    · cases hnext
  cases token with
  | null =>
      cases hnext
      exact keeps_deliver h hstack (h.null _ hstack.length_le)
  | bool flag =>
      cases hnext
      exact keeps_deliver h hstack (h.bool _ hstack.length_le flag)
  | number number =>
      cases hnext
      exact keeps_deliver h hstack (h.number _ hstack.length_le number)
  | string text =>
      cases hnext
      exact keeps_deliver h hstack (h.string _ hstack.length_le text)
  | lbracket =>
      change opened (.array []) .firstItem stack = some next at hnext
      refine hopened ?_ (fun _ hphase => by cases hphase) hnext
      intro item hmem
      cases hmem
  | lbrace =>
      change opened (.object [] "") .firstKey stack = some next at hnext
      refine hopened ?_ (fun _ hphase => by cases hphase) hnext
      exact h.empty _
  | rbrace => cases hnext
  | rbracket => cases hnext
  | comma => cases hnext
  | colon => cases hnext

/-- A container that closes is a value of the level outside. -/
theorem keeps_close_array {items : List Json} {stack : List Frame}
    (hstack : StackKeeps value members (.array items :: stack)) :
    (deliver insert (.array items.reverse) stack).Keeps value members := by
  obtain ⟨hdepth, hitems, hrest⟩ := hstack
  exact keeps_deliver h hrest (h.array _ _ hdepth fun item hmem =>
    hitems item (List.mem_reverse.mp hmem))

theorem keeps_close_object {done : Members} {key : String} {stack : List Frame}
    (hstack : StackKeeps value members (.object done key :: stack)) :
    (deliver insert (.object done) stack).Keeps value members := by
  obtain ⟨hdepth, hmembers, hrest⟩ := hstack
  exact keeps_deliver h hrest (h.object _ _ hdepth hmembers)

theorem keeps_step {parser next : ParserState} {token : Token}
    (hparser : parser.Keeps value members) (hnext : parser.step insert token = some next) :
    next.Keeps value members := by
  obtain ⟨stack, phase⟩ := parser
  have hstack : StackKeeps value members stack := hparser.stack
  unfold step at hnext
  dsimp only at hnext
  split at hnext
  · exact keeps_startValue h hstack hnext
  · cases hnext
    exact keeps_close_array h hstack
  · exact keeps_startValue h hstack hnext
  · cases hnext
    exact keeps_close_object h hstack
  · cases hnext
    exact keeps_unfinished hstack nofun
  · cases hnext
    exact keeps_unfinished hstack nofun
  · cases hnext
    exact keeps_unfinished hstack nofun
  · cases hnext
    exact keeps_unfinished hstack nofun
  · cases hnext
    exact keeps_close_array h hstack
  · cases hnext
    exact keeps_unfinished hstack nofun
  · cases hnext
    exact keeps_close_object h hstack
  · cases hnext

theorem keeps_run {parser next : ParserState} {row : List Token}
    (hparser : parser.Keeps value members) (hnext : parser.run insert row = some next) :
    next.Keeps value members := by
  induction row generalizing parser with
  | nil =>
      cases hnext
      exact hparser
  | cons token rest ih =>
      obtain ⟨middle, hmiddle, hrest⟩ := Option.bind_eq_some_iff.mp hnext
      exact ih (keeps_step h hparser hmiddle) hrest

end ParserState

theorem readText_keeps (h : Kept insert value members) {floats : FloatText} {text : String}
    {complete : Json} (hread : readText insert floats text = some complete) : value 0 complete := by
  obtain ⟨row, -, hparse⟩ := Option.bind_eq_some_iff.mp hread
  unfold parse at hparse
  split at hparse
  · rename_i stack other hrun
    cases hparse
    have hstart : ParserState.Keeps value members ⟨[], .value⟩ :=
      ParserState.keeps_unfinished trivial nofun
    exact (ParserState.keeps_run h hstart hrun).finished _ rfl
  · cases hparse

/-- No value is deeper than the reader's limit. -/
theorem kept_depth : Kept insertMember (fun level value => level + depth value ≤ depthLimit)
    (fun level done => ∀ member ∈ done, level + depth member.2 ≤ depthLimit) where
  null _ hlevel := hlevel
  bool _ hlevel _ := hlevel
  number _ hlevel _ := hlevel
  string _ hlevel _ := hlevel
  array level items hlevel hitems := by
    have hdepth : Json.itemsDepth items ≤ depthLimit - (level + 1) :=
      Json.itemsDepth_le fun item hmem => by have := hitems item hmem; omega
    rw [depth]
    omega
  empty _ _ hmem := by cases hmem
  insert _ _ _ _ hdone hstored _ hmem := by
    rcases Json.mem_insertMember hmem with rfl | hmem
    · exact hstored
    · exact hdone _ hmem
  object level done hlevel hdone := by
    have hdepth : Json.membersDepth done ≤ depthLimit - (level + 1) :=
      Json.membersDepth_le fun member hmem => by have := hdone member hmem; omega
    rw [depth]
    omega

/-- The members of a value that was read are in order, and settled in turn. -/
theorem kept_settled : Kept insertMember
    (fun _ value => normalize value = value ∧ Distinct value)
    (fun _ done => Sorted done ∧
      ∀ member ∈ done, normalize member.2 = member.2 ∧ Distinct member.2) where
  null _ _ := ⟨rfl, trivial⟩
  bool _ _ _ := ⟨rfl, trivial⟩
  number _ _ _ := ⟨rfl, trivial⟩
  string _ _ _ := ⟨rfl, trivial⟩
  array _ items _ hitems := by
    refine ⟨?_, Json.distinctItems fun item hmem => (hitems item hmem).2⟩
    rw [Json.normalize, Json.normalizeItems_settled fun item hmem => (hitems item hmem).1]
  empty _ := ⟨List.Pairwise.nil, fun _ hmem => by cases hmem⟩
  insert _ key stored _ hdone hstored := by
    refine ⟨hdone.1.insertMember key stored, fun member hmem => ?_⟩
    rcases Json.mem_insertMember hmem with rfl | hmem
    · exact hstored
    · exact hdone.2 member hmem
  object _ done _ hdone := by
    refine ⟨Json.normalize_sorted hdone.1 fun member hmem => (hdone.2 member hmem).1, ?_,
      Json.distinctMembers fun member hmem => (hdone.2 member hmem).2⟩
    exact hdone.1.imp fun hlt => ne_of_lt hlt

/-! The laws. -/

/-- A text layer like this one, with what it leaves open: how floats are written and read,
and what its diagnostics say. -/
def serdeJson (floats : FloatText) (diagnostic : String → String) (mismatch : Json → String) :
    SerdeJson where
  toString := toString floats
  fromStr text := (readText insertMember floats text).elim (.error (diagnostic text)) .ok
  document text := (readText appendMember floats text).elim (.error (diagnostic text)) .ok
  mismatch := mismatch

variable {floats : FloatText} {diagnostic : String → String} {mismatch : Json → String}

theorem serdeJson_lawful : (serdeJson floats diagnostic mismatch).Lawful where
  readsBack value h := by
    rw [serdeJson]
    dsimp only
    rw [readText_insert floats h]
    rfl
  documents value h := by
    rw [serdeJson]
    dsimp only
    rw [readText_append floats h]
    rfl
  printable _ h := toString_printable h.floatFree
  framed _ h := toString_framed h.floatFree
  accepts text value h := by
    obtain ⟨read, hread, rfl⟩ : ∃ read, readText insertMember floats text = some read ∧
        read = value := by
      rw [serdeJson] at h
      dsimp only at h
      cases hread : readText insertMember floats text with
      | none => simp [hread] at h
      | some read =>
          rw [hread] at h
          exact ⟨read, rfl, Except.ok.inj h⟩
    have hdepth := readText_keeps kept_depth hread
    obtain ⟨hsettled, hdistinct⟩ := readText_keeps kept_settled hread
    rw [Nat.zero_add] at hdepth
    exact ⟨hdepth, hsettled, hdistinct⟩

/-- One that reads no floats. -/
def integers : SerdeJson :=
  serdeJson ⟨fun _ => ['0', '.', '0'], fun _ => none⟩
    (fun _ => "expected value at line 1 column 1") fun _ => "invalid type"

theorem integers_lawful : integers.Lawful := serdeJson_lawful

end JsonText
