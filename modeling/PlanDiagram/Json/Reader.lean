import PlanDiagram.Entries
import PlanDiagram.Json.Token

/-!
# Reading JSON

Tokens are read one after the other by a machine that knows which lists and objects are open and
what may come next. A text that is no JSON is refused at the first token that may not stand where it
stands. Of several fields with one name the last counts, in the place of the first.
-/

namespace PlanDiagram.Json

/-- A list or object that is open: the entries before, last first, or the fields before with the
name of the field that is being read. -/
inductive Frame where
  | list (entries : List Value)
  | object (fields : List (String × Value)) (name : String)

/-- What may come next; `outer` are the lists and objects that are open, innermost first. -/
inductive State where
  /-- A value. -/
  | value (outer : List Frame)
  /-- The first entry of a list, or its end. -/
  | firstEntry (outer : List Frame)
  /-- A comma, or the end of a list. -/
  | afterEntry (entries : List Value) (outer : List Frame)
  /-- The first name of an object, or its end. -/
  | firstName (outer : List Frame)
  /-- A name. -/
  | name (fields : List (String × Value)) (outer : List Frame)
  /-- The colon after a name. -/
  | colon (fields : List (String × Value)) (name : String) (outer : List Frame)
  /-- A comma, or the end of an object. -/
  | afterField (fields : List (String × Value)) (outer : List Frame)
  /-- Nothing more. -/
  | done (v : Value)

/-- Puts a value that is complete into the innermost list or object. -/
def place (v : Value) : List Frame → State
  | [] => .done v
  | .list entries :: outer => .afterEntry (v :: entries) outer
  | .object fields name :: outer => .afterField (Entries.put name v fields) outer

/-- Why the text may not go on or end where something is awaited. -/
def State.cause : State → Cause
  | .value _ | .firstEntry _ => .valueExpected
  | .afterEntry .. | .afterField .. => .commaExpected
  | .firstName _ | .name .. => .nameExpected
  | .colon .. => .colonExpected
  | .done _ => .extraData

/-- Reads a token where a value is awaited; `index` is its place. -/
def readValue (outer : List Frame) (index : Nat) : Token → Except Defect State
  | .value result => result.map fun v => place v outer
  | .quoted result => result.map fun s => place (.text s) outer
  | .openList => .ok (.firstEntry outer)
  | .openObject => .ok (.firstName outer)
  | _ => .error ⟨.valueExpected, index⟩

/-- Reads a token where a name is awaited; `index` is its place. -/
def readName (fields : List (String × Value)) (outer : List Frame) (index : Nat) :
    Token → Except Defect State
  | .quoted result => result.map fun name => .colon fields name outer
  | _ => .error ⟨.nameExpected, index⟩

/-- Reads a token; `index` is its place. -/
def step (state : State) (index : Nat) (token : Token) : Except Defect State :=
  match state, token with
  | .value outer, token => readValue outer index token
  | .firstEntry outer, .closeList => .ok (place (.list []) outer)
  | .firstEntry outer, token => readValue (.list [] :: outer) index token
  | .afterEntry entries outer, .closeList => .ok (place (.list entries.reverse) outer)
  | .afterEntry entries outer, .comma => .ok (.value (.list entries :: outer))
  | .firstName outer, .closeObject => .ok (place (.object []) outer)
  | .firstName outer, token => readName [] outer index token
  | .name fields outer, token => readName fields outer index token
  | .colon fields name outer, .colon => .ok (.value (.object fields name :: outer))
  | .afterField fields outer, .closeObject => .ok (place (.object fields) outer)
  | .afterField fields outer, .comma => .ok (.name fields outer)
  | state, _ => .error ⟨state.cause, index⟩

/-- Reads tokens up to the end of the text, which has `length` characters. -/
def run (length : Nat) (state : State) : List (Token × Nat) → Except Defect Value
  | [] =>
    match state with
    | .done v => .ok v
    | state => .error ⟨state.cause, length⟩
  | (token, index) :: rest => do run length (← step state index token) rest

/-- Why a text is no JSON: what is wrong, with the line and the column, which count from one, and
the number of characters before. -/
structure ReadError where
  cause : Cause
  line : Nat
  column : Nat
  index : Nat
deriving DecidableEq, Repr

/-- The wording of an error. Of an integer that is too long no place is given. -/
def ReadError.message (e : ReadError) : String :=
  match e.cause with
  | .longInteger _ => e.cause.message
  | _ =>
    e.cause.message ++ ": line " ++ toString e.line ++ " column " ++ toString e.column ++
      " (char " ++ toString e.index ++ ")"

/-- A defect with the line and the column in the text. -/
def Defect.locate (cs : List Char) (d : Defect) : ReadError :=
  let before := cs.take d.index
  { cause := d.cause
    line := before.count '\n' + 1
    column := (before.reverse.takeWhile (· != '\n')).length + 1
    index := d.index }

/-- Reads the value that a text writes. -/
def read (s : String) : Except ReadError Value :=
  let cs := s.toList
  let result :=
    if cs.head? == some '\uFEFF' then .error ⟨.byteOrderMark, 0⟩
    else run cs.length (.value []) (tokens cs)
  result.mapError (Defect.locate cs)

end PlanDiagram.Json
