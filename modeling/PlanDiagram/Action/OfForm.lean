import PlanDiagram.Action.Basic
import PlanDiagram.Formula.OfForm

/-!
# Actions from forms

After its name an action is a sequence of groups: a keyword with the one form that follows it, or
`:description` with bare words up to the next keyword. The groups are cut out first and then read by
keyword. Of a repeated keyword the last group counts, except that parameters of all groups stay in
scope.
-/

namespace PlanDiagram.Action

/-- A keyword of an action with its value. -/
structure Group where
  keyword : String
  value : Form

/-- The keyword in lower case. -/
def Group.key (g : Group) : String :=
  Text.lower g.keyword

/-- Tells whether an atom is a keyword. -/
def isKeyword (atom : String) : Bool :=
  atom.toList.head? == some ':'

/-- Tells whether a form is a word of a description. -/
def isWord : Form → Bool
  | .atom atom => !isKeyword atom
  | .list _ => false

/-- A text without the double quotes around it. -/
def unquote (s : String) : String :=
  match s.toList with
  | '"' :: rest => if rest.getLast? == some '"' then String.ofList rest.dropLast else s
  | _ => s

/-- Cuts the entries after the name of an action into groups. Entries that are no groups end the
sequence, and the fault about them is given with the groups before them. -/
def groups (action : String) (entries : List Form) : List Group × Option Form.Fault :=
  match entries with
  | [] => ([], none)
  | .list inner :: _ => ([], some (.keywordExpected action (.list inner)))
  | .atom atom :: rest =>
    if !isKeyword atom then ([], some (.keywordExpected action (.atom atom)))
    else
      match rest with
      | [] => ([], some (.keywordWithoutValue atom action))
      | value :: rest =>
        if Text.lower atom == ":description" && !value.isList then
          let words := value :: rest.takeWhile isWord
          let text := unquote (" ".intercalate (words.map Form.render))
          let (following, fault) := groups action (rest.dropWhile isWord)
          ({ keyword := atom, value := .atom text } :: following, fault)
        else
          let (following, fault) := groups action rest
          ({ keyword := atom, value } :: following, fault)
termination_by entries.length
decreasing_by
  · have := (List.dropWhile_sublist isWord (l := rest)).length_le
    simp only [List.length_cons]
    omega
  · simp only [List.length_cons]
    omega

/-- The keywords that are understood. -/
def knownKeywords : List String :=
  [":parameters", ":precondition", ":condition", ":effect", ":description"]

/-- The value of the last group with the given keyword. -/
def lastValue? (key : String) (gs : List Group) : Option Form :=
  (gs.filterMap fun g => if g.key == key then some g.value else none).getLast?

/-- The parameters in a group. -/
def readParameters (action : String) : Form → Except Form.Fault (List Parameter)
  | .list entries => Parameter.readList true entries
  | .atom _ => .error (.parametersNotList action)

/-- The text of the value of a description. -/
def descriptionText : Form → String
  | .atom text => text
  | .list words => " ".intercalate (words.map Form.render)

/-- The formulas that a form joins by `and` at its top, or the one formula that it is. -/
def conjuncts (scope : Scope) (form : Form) : Except Form.Fault (List Formula) := do
  match ← Formula.ofForm scope form with
  | .composite "and" items _ => return items
  | f => return [f]

/-- The conjuncts of a form that may be missing. -/
def conjuncts? (scope : Scope) : Option Form → Except Form.Fault (List Formula)
  | some form => conjuncts scope form
  | none => .ok []

/-- Reads an action. Conditions and effects are read when all parameters are known; both keywords
for conditions may be used, and the text that is kept is that of the second. -/
def ofForm (constants : Scope) (segment : Form) : Except Form.Fault Action := do
  match segment with
  | .list (.atom head :: .atom name :: rest) =>
    let (gs, fault) := groups name rest
    let parameterLists ← (gs.filter (·.key == ":parameters")).mapM fun g =>
      readParameters name g.value
    if let some fault := fault then throw fault
    let scope := parameterLists.foldl Scope.bind constants
    let precondition := lastValue? ":precondition" gs
    let condition := lastValue? ":condition" gs
    let effect := lastValue? ":effect" gs
    let fromPrecondition ← conjuncts? scope precondition
    let fromCondition ← conjuncts? scope condition
    let effects ← conjuncts? scope effect
    return {
      name
      parameters := parameterLists.getLast?.getD []
      preconditions := fromPrecondition ++ fromCondition
      effects
      description := (lastValue? ":description" gs).map descriptionText
      durative := Text.lower head == ":durative-action"
      extras := (gs.filter fun g => !knownKeywords.contains g.key).map fun g =>
        { label := g.keyword, entries := [g.value.render] }
      preconditionText := (condition.or precondition).map Form.render
      effectText := effect.map Form.render }
  | segment => throw (.namelessAction segment)

end PlanDiagram.Action
