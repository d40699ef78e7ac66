import SupervisorRelay.Library.JsonLexing

/-! The reader of JSON text: a stack machine over the tokens that refuses to nest deeper
than its limit. What becomes of a member is a parameter: a `Value` keeps its members sorted
and lets a later one replace an earlier one of its name, a derived reader sees them all. -/
namespace JsonText

open Json (Fits Members depth depthLimit insertMember itemsDepth membersDepth)

def appendMember (key : String) (value : Json) (members : Members) : Members :=
  members ++ [(key, value)]

/-- An open container; the items of an array are kept last first, and of an object the
name that its next value will have. -/
inductive Frame where
  | array (items : List Json)
  | object (members : Members) (key : String)

inductive Phase where
  | value
  | firstItem
  | firstKey
  | key
  | colon
  | afterValue
  | finished (value : Json)

structure ParserState where
  stack : List Frame
  phase : Phase

variable (insert : String → Json → Members → Members)

namespace ParserState

/-- A complete value goes into the innermost open container. -/
def deliver (value : Json) : List Frame → ParserState
  | [] => ⟨[], .finished value⟩
  | .array items :: stack => ⟨.array (value :: items) :: stack, .afterValue⟩
  | .object members key :: stack => ⟨.object (insert key value members) key :: stack, .afterValue⟩

def opened (frame : Frame) (phase : Phase) (stack : List Frame) : Option ParserState :=
  if stack.length < depthLimit then some ⟨frame :: stack, phase⟩ else none

def startValue (stack : List Frame) : Token → Option ParserState
  | .null => some (deliver insert .null stack)
  | .bool value => some (deliver insert (.bool value) stack)
  | .number value => some (deliver insert (.number value) stack)
  | .string value => some (deliver insert (.string value) stack)
  | .lbracket => opened (.array []) .firstItem stack
  | .lbrace => opened (.object [] "") .firstKey stack
  | _ => none

def step (parser : ParserState) (token : Token) : Option ParserState :=
  match parser.phase, token, parser.stack with
  | .value, token, stack => startValue insert stack token
  | .firstItem, .rbracket, .array items :: stack =>
      some (deliver insert (.array items.reverse) stack)
  | .firstItem, token, stack => startValue insert stack token
  | .firstKey, .rbrace, .object members _ :: stack => some (deliver insert (.object members) stack)
  | .firstKey, .string key, .object members _ :: stack =>
      some ⟨.object members key :: stack, .colon⟩
  | .key, .string key, .object members _ :: stack => some ⟨.object members key :: stack, .colon⟩
  | .colon, .colon, stack => some ⟨stack, .value⟩
  | .afterValue, .comma, .array items :: stack => some ⟨.array items :: stack, .value⟩
  | .afterValue, .rbracket, .array items :: stack =>
      some (deliver insert (.array items.reverse) stack)
  | .afterValue, .comma, .object members key :: stack =>
      some ⟨.object members key :: stack, .key⟩
  | .afterValue, .rbrace, .object members _ :: stack =>
      some (deliver insert (.object members) stack)
  | _, _, _ => none

def run (parser : ParserState) : List Token → Option ParserState
  | [] => some parser
  | token :: rest => (parser.step insert token).bind fun next => next.run rest

end ParserState

def parse (row : List Token) : Option Json :=
  match ParserState.run insert ⟨[], .value⟩ row with
  | some ⟨_, .finished value⟩ => some value
  | _ => none

/-- The whole text is one value. -/
def readText (floats : FloatText) (text : String) : Option Json :=
  (lex floats .between text.toList).bind (parse insert)

mutual

/-- The value as a reader with such an insertion holds it. -/
def held : Json → Json
  | .array items => .array (heldItems items)
  | .object members => .object (heldMembers members [])
  | value => value

def heldItems : List Json → List Json
  | [] => []
  | item :: rest => held item :: heldItems rest

def heldMembers : Members → Members → Members
  | [], done => done
  | (key, value) :: rest, done => heldMembers rest (insert key (held value) done)

end

/-! Reading back. -/

variable {insert : String → Json → Members → Members}

namespace ParserState

theorem run_cons {parser next : ParserState} {token : Token} {rest : List Token}
    (h : parser.step insert token = some next) :
    parser.run insert (token :: rest) = next.run insert rest := by
  rw [run, h, Option.bind_some]

theorem run_opened {frame : Frame} {phase : Phase} {stack : List Frame} {token : Token}
    {rest : List Token} (hstep : startValue insert stack token = opened frame phase stack)
    (hdepth : stack.length + 1 ≤ depthLimit) :
    run insert ⟨stack, .value⟩ (token :: rest) = run insert ⟨frame :: stack, phase⟩ rest := by
  refine run_cons ?_
  change startValue insert stack token = _
  rw [hstep, opened, if_pos (by omega)]

/-- The first item of an array is read like any other. -/
theorem run_firstItem (value : Json) (stack : List Frame) (rest : List Token) :
    run insert ⟨stack, .firstItem⟩ (tokens value ++ rest) =
      run insert ⟨stack, .value⟩ (tokens value ++ rest) := by
  cases value <;> rfl

end ParserState

open ParserState

mutual

theorem run_tokens {stack : List Frame} (rest : List Token) :
    (value : Json) → stack.length + depth value ≤ depthLimit →
      run insert ⟨stack, .value⟩ (tokens value ++ rest) =
        run insert (deliver insert (held insert value) stack) rest
  | .null, _ => rfl
  | .bool _, _ => rfl
  | .number _, _ => rfl
  | .string _, _ => rfl
  | .array items, hdepth => by
      rw [depth] at hdepth
      rw [tokens, List.cons_append, run_opened rfl (by omega), held]
      exact run_itemTokens rest items (by omega)
  | .object members, hdepth => by
      rw [depth] at hdepth
      rw [tokens, List.cons_append, run_opened rfl (by omega), held]
      exact run_memberTokens rest members (by omega)

theorem run_itemTokens {stack : List Frame} (rest : List Token) :
    (items : List Json) → stack.length + 1 + itemsDepth items ≤ depthLimit →
      run insert ⟨.array [] :: stack, .firstItem⟩ (itemTokens items ++ rest) =
        run insert (deliver insert (.array (heldItems insert items)) stack) rest
  | [], _ => rfl
  | item :: items, hdepth => by
      rw [itemsDepth] at hdepth
      rw [itemTokens, List.append_assoc, run_firstItem,
        run_tokens _ item (by rw [List.length_cons]; omega)]
      exact run_moreItems rest [held insert item] items (by omega)

/-- The items that were read stand last first. -/
theorem run_moreItems {stack : List Frame} (rest : List Token) (done : List Json) :
    (items : List Json) → stack.length + 1 + itemsDepth items ≤ depthLimit →
      run insert ⟨.array done :: stack, .afterValue⟩ (moreItems items ++ rest) =
        run insert (deliver insert (.array (done.reverse ++ heldItems insert items)) stack) rest
  | [], _ => by
      rw [heldItems, List.append_nil]
      rfl
  | item :: items, hdepth => by
      rw [itemsDepth] at hdepth
      rw [moreItems, List.cons_append, List.append_assoc,
        run_cons (show step insert ⟨.array done :: stack, .afterValue⟩ .comma =
          some ⟨.array done :: stack, .value⟩ from rfl),
        run_tokens _ item (by rw [List.length_cons]; omega)]
      rw [deliver, run_moreItems rest (held insert item :: done) items (by omega),
        heldItems, List.reverse_cons, List.append_assoc]
      rfl

theorem run_memberTokens {stack : List Frame} (rest : List Token) :
    (members : Members) → stack.length + 1 + membersDepth members ≤ depthLimit →
      run insert ⟨.object [] "" :: stack, .firstKey⟩ (memberTokens members ++ rest) =
        run insert (deliver insert (.object (heldMembers insert members [])) stack) rest
  | [], _ => rfl
  | (key, value) :: members, hdepth => by
      rw [membersDepth] at hdepth
      rw [memberTokens, List.cons_append, List.cons_append, List.append_assoc,
        run_cons (show step insert ⟨.object [] "" :: stack, .firstKey⟩ (.string key) =
          some ⟨.object [] key :: stack, .colon⟩ from rfl),
        run_cons (show step insert ⟨.object [] key :: stack, .colon⟩ .colon =
          some ⟨.object [] key :: stack, .value⟩ from rfl),
        run_tokens _ value (by rw [List.length_cons]; omega)]
      exact run_moreMembers rest _ key members (by omega)

theorem run_moreMembers {stack : List Frame} (rest : List Token) (done : Members)
    (last : String) :
    (members : Members) → stack.length + 1 + membersDepth members ≤ depthLimit →
      run insert ⟨.object done last :: stack, .afterValue⟩ (moreMembers members ++ rest) =
        run insert (deliver insert (.object (heldMembers insert members done)) stack) rest
  | [], _ => rfl
  | (key, value) :: members, hdepth => by
      rw [membersDepth] at hdepth
      rw [moreMembers, List.cons_append, List.cons_append, List.cons_append, List.append_assoc,
        run_cons (show step insert ⟨.object done last :: stack, .afterValue⟩ .comma =
          some ⟨.object done last :: stack, .key⟩ from rfl),
        run_cons (show step insert ⟨.object done last :: stack, .key⟩ (.string key) =
          some ⟨.object done key :: stack, .colon⟩ from rfl),
        run_cons (show step insert ⟨.object done key :: stack, .colon⟩ .colon =
          some ⟨.object done key :: stack, .value⟩ from rfl),
        run_tokens _ value (by rw [List.length_cons]; omega)]
      exact run_moreMembers rest _ key members (by omega)

end

theorem parse_tokens {value : Json} (h : depth value ≤ depthLimit) :
    parse insert (tokens value) = some (held insert value) := by
  have hrun : run insert ⟨[], .value⟩ (tokens value ++ []) =
      run insert (deliver insert (held insert value) []) [] :=
    run_tokens [] value (by simpa using h)
  rw [List.append_nil] at hrun
  rw [parse, hrun]
  rfl

/-- What the writer writes the reader reads, down to its limit on nesting. -/
theorem readText_toString (floats : FloatText) {value : Json} (h : Fits depthLimit value) :
    readText insert floats (toString floats value) = some (held insert value) := by
  rw [readText, toString, String.toList_ofList, lex_tokens h.floatFree, Option.bind_some,
    parse_tokens h.shallow]

/-! A reader that keeps every member gets the value itself. -/

mutual

theorem held_append : (value : Json) → held appendMember value = value
  | .null => rfl
  | .bool _ => rfl
  | .number _ => rfl
  | .string _ => rfl
  | .array items => by rw [held, heldItems_append items]
  | .object members => by rw [held, heldMembers_append members [], List.nil_append]

theorem heldItems_append : (items : List Json) → heldItems appendMember items = items
  | [] => rfl
  | item :: rest => by rw [heldItems, held_append item, heldItems_append rest]

theorem heldMembers_append :
    (members done : Members) → heldMembers appendMember members done = done ++ members
  | [], done => by rw [heldMembers, List.append_nil]
  | (key, value) :: rest, done => by
      rw [heldMembers, held_append value, heldMembers_append rest, appendMember,
        List.append_assoc, List.singleton_append]

end

theorem readText_append (floats : FloatText) {value : Json} (h : Fits depthLimit value) :
    readText appendMember floats (toString floats value) = some value := by
  rw [readText_toString floats h, held_append]

/-! A reader that sorts the members gets the value that a `Value` is. -/

mutual

theorem held_insert : (value : Json) → held insertMember value = value.normalize
  | .null => rfl
  | .bool _ => rfl
  | .number _ => rfl
  | .string _ => rfl
  | .array items => by rw [held, Json.normalize, heldItems_insert items]
  | .object members => by rw [held, Json.normalize, heldMembers_insert members []]

theorem heldItems_insert : (items : List Json) →
    heldItems insertMember items = Json.normalizeItems items
  | [] => rfl
  | item :: rest => by
      rw [heldItems, Json.normalizeItems, held_insert item, heldItems_insert rest]

theorem heldMembers_insert : (members done : Members) →
    heldMembers insertMember members done = Json.normalizeMembers members done
  | [], _ => rfl
  | (key, value) :: rest, done => by
      rw [heldMembers, Json.normalizeMembers, held_insert value, heldMembers_insert rest]

end

theorem readText_insert (floats : FloatText) {value : Json} (h : Fits depthLimit value) :
    readText insertMember floats (toString floats value) = some value.normalize := by
  rw [readText_toString floats h, held_insert]

end JsonText
