import PlanDiagram.Diagram.ComparisonBand
import PlanDiagram.Diagram.NumericBand
import PlanDiagram.Proofs.Diagram.Draw

/-!
# How nodes are drawn

A node of a band is drawn in the next cell, unless it stands for something that has been drawn
before and is found. What a function that draws nodes or operands can have done, if it succeeds, is
said here once, so that every fact about bands is proved by the same cases.
-/

namespace PlanDiagram.Diagram

variable {α : Type} [Add α] [Mul α] [LT α] [DecidableLT α] [Scalar α] {d d' : Drawing α}

namespace NumericFrame

variable {frame : NumericFrame α} {band band' : NumericBand α} {box : Box α}

/-- A node is an ellipse in the next cell, under a number of the session. -/
theorem node_ok {text id counter role : String}
    (hdraw : frame.node band text id counter role d = .ok ((box, band'), d')) :
    ∃ number d₁, Draw.ticket counter d = .ok (number, d₁) ∧
      Draw.ellipse frame.cfg text
        (Draw.cell frame.cfg frame.left frame.top frame.cfg.actionColumns band.placed)
        (id ++ "-" ++ toString number) role d₁ = .ok (box, d') ∧
      band' = { band with placed := band.placed + 1 } := by
  simp only [node] at hdraw
  obtain ⟨number, d₁, hticket, hdraw⟩ := Draw.bind_ok_iff.mp hdraw
  obtain ⟨box', d₂, hcell, hdraw⟩ := Draw.bind_ok_iff.mp hdraw
  obtain ⟨-, hellipse⟩ := Draw.inCell_ok_iff.mp hcell
  obtain ⟨heq, rfl⟩ := Draw.pure_ok_iff.mp hdraw
  obtain ⟨rfl, rfl⟩ := Prod.mk.inj heq
  exact ⟨number, d₁, hticket, hellipse, rfl⟩

/-- How the node of a function term comes about: it is found by its key, or it is drawn. -/
inductive FunctionDrawing (frame : NumericFrame α) (band : NumericBand α) (name : String)
    (arguments : List Formula) (d : Drawing α) : Box α → NumericBand α → Drawing α → Prop
  | found {known : FunctionNode α}
      (hfind : (band.functions.find? fun known => known.key == functionKey name arguments) =
        some known) :
      FunctionDrawing frame band name arguments d known.box band d
  | drawn {box : Box α} {band₁ : NumericBand α} {d' : Drawing α}
      (hfind : (band.functions.find? fun known => known.key == functionKey name arguments) = none)
      (hnode : frame.node band (Formula.functionLabel name (Formula.labels arguments))
        (d.canvas.group ++ "-function-" ++ functionKey name arguments) "fn" "function" d =
          .ok ((box, band₁), d')) :
      FunctionDrawing frame band name arguments d box
        { band₁ with
          functions := band₁.functions ++ [⟨functionKey name arguments, box, name, arguments⟩] } d'

/-- The node of a function term is found or drawn. -/
theorem functionNode_ok {name : String} {arguments : List Formula}
    (hdraw : frame.functionNode band name arguments d = .ok ((box, band'), d')) :
    FunctionDrawing frame band name arguments d box band' d' := by
  cases hfind : band.functions.find? fun known => known.key == functionKey name arguments with
  | some known =>
    simp only [functionNode, hfind] at hdraw
    obtain ⟨heq, rfl⟩ := Draw.pure_ok_iff.mp hdraw
    obtain ⟨rfl, rfl⟩ := Prod.mk.inj heq
    exact .found hfind
  | none =>
    simp only [functionNode, hfind] at hdraw
    obtain ⟨group, d₁, hgroup, hdraw⟩ := Draw.bind_ok_iff.mp hdraw
    obtain ⟨rfl, rfl⟩ := Draw.group_ok_iff.mp hgroup
    obtain ⟨⟨box', band₁⟩, d₂, hnode, hdraw⟩ := Draw.bind_ok_iff.mp hdraw
    obtain ⟨heq, rfl⟩ := Draw.pure_ok_iff.mp hdraw
    obtain ⟨rfl, rfl⟩ := Prod.mk.inj heq
    exact .drawn hfind hnode

/-- An operator among operands is drawn, and then an arrow into the operator above it. -/
theorem innerNode_ok {parent : Box α} {suffix role : String} {f : Formula}
    (hdraw : frame.innerNode parent suffix band f role d = .ok ((box, band'), d')) :
    ∃ d₁, frame.operatorNode band f.sign (f.kindName ++ "-" ++ suffix) role d =
        .ok ((box, band'), d₁) ∧
      frame.numericEdge box parent d₁ = .ok ((), d') := by
  obtain ⟨⟨box', band₁⟩, d₁, hnode, hdraw⟩ := Draw.bind_ok_iff.mp hdraw
  obtain ⟨u, d₂, hedge, hdraw⟩ := Draw.bind_ok_iff.mp hdraw
  obtain ⟨heq, rfl⟩ := Draw.pure_ok_iff.mp hdraw
  obtain ⟨rfl, rfl⟩ := Prod.mk.inj heq
  exact ⟨d₁, hnode, hedge⟩

end NumericFrame

namespace ComparisonFrame

variable {frame : ComparisonFrame α} {top : α} {grid grid' : OperandGrid α} {box : Box α}

/-- The node of an operand is an ellipse in the next cell. -/
theorem operandNode_ok {text id : String}
    (hdraw : frame.operandNode top grid text id d = .ok ((box, grid'), d')) :
    Draw.ellipse frame.cfg text (Draw.cell frame.cfg frame.left top frame.columns grid.placed) id
      "function" d = .ok (box, d') ∧ grid' = { grid with placed := grid.placed + 1 } := by
  simp only [operandNode] at hdraw
  obtain ⟨box', d₁, hcell, hdraw⟩ := Draw.bind_ok_iff.mp hdraw
  obtain ⟨-, hellipse⟩ := Draw.inCell_ok_iff.mp hcell
  obtain ⟨heq, rfl⟩ := Draw.pure_ok_iff.mp hdraw
  obtain ⟨rfl, rfl⟩ := Prod.mk.inj heq
  exact ⟨hellipse, rfl⟩

/-- How the node of a function comes about: it is found by its name, or it is drawn. -/
inductive FunctionDrawing (frame : ComparisonFrame α) (top : α) (grid : OperandGrid α)
    (suffix name : String) (arguments : List Formula) (d : Drawing α) :
    Box α → OperandGrid α → Drawing α → Prop
  | found {box : Box α} (hlookup : grid.functions.lookup name = some box) :
      FunctionDrawing frame top grid suffix name arguments d box
        { grid with uses := grid.uses ++ [⟨box, name, arguments⟩] } d
  | drawn {number : Nat} {d₁ d' : Drawing α} {box : Box α}
      (hlookup : grid.functions.lookup name = none)
      (hticket : Draw.ticket "fn" d = .ok (number, d₁))
      (hellipse : Draw.ellipse frame.cfg name
        (Draw.cell frame.cfg frame.left top frame.columns grid.placed)
        (d₁.canvas.group ++ "-function-" ++ frame.role.name ++ "-" ++ suffix ++ "-" ++
          toString number ++ "-" ++ name) "function" d₁ = .ok (box, d')) :
      FunctionDrawing frame top grid suffix name arguments d box
        { placed := grid.placed + 1
          functions := grid.functions ++ [(name, box)]
          uses := grid.uses ++ [⟨box, name, arguments⟩] } d'

/-- The node of a function is found or drawn. -/
theorem functionNode_ok {suffix name : String} {arguments : List Formula}
    (hdraw : frame.functionNode top grid suffix name arguments d = .ok ((box, grid'), d')) :
    FunctionDrawing frame top grid suffix name arguments d box grid' d' := by
  cases hlookup : grid.functions.lookup name with
  | some known =>
    simp only [functionNode, hlookup] at hdraw
    obtain ⟨heq, rfl⟩ := Draw.pure_ok_iff.mp hdraw
    obtain ⟨rfl, rfl⟩ := Prod.mk.inj heq
    exact .found hlookup
  | none =>
    simp only [functionNode, hlookup] at hdraw
    obtain ⟨number, d₁, hticket, hdraw⟩ := Draw.bind_ok_iff.mp hdraw
    obtain ⟨group, d₂, hgroup, hdraw⟩ := Draw.bind_ok_iff.mp hdraw
    obtain ⟨rfl, rfl⟩ := Draw.group_ok_iff.mp hgroup
    obtain ⟨⟨box', grid₁⟩, d₃, hnode, hdraw⟩ := Draw.bind_ok_iff.mp hdraw
    obtain ⟨heq, rfl⟩ := Draw.pure_ok_iff.mp hdraw
    obtain ⟨rfl, rfl⟩ := Prod.mk.inj heq
    obtain ⟨hellipse, rfl⟩ := operandNode_ok hnode
    exact .drawn hlookup hticket hellipse

/-- How an operand is drawn: a function by its node, a literal not at all, and any other formula by
a node of its own. -/
inductive OperandDrawing (frame : ComparisonFrame α) (top : α) (grid : OperandGrid α)
    (suffix : String) (d : Drawing α) :
    Option Formula → Option (Box α) → Option String → OperandGrid α → Drawing α → Prop
  | missing : OperandDrawing frame top grid suffix d none none none grid d
  | function {name : String} {arguments : List Formula} {box : Box α} {grid' : OperandGrid α}
      {d' : Drawing α}
      (hnode : frame.functionNode top grid suffix name arguments d = .ok ((box, grid'), d')) :
      OperandDrawing frame top grid suffix d (some (.function name arguments)) (some box) none
        grid' d'
  | literal {f : Formula} {text : String} (hf : ∀ name arguments, f ≠ .function name arguments)
      (hliteral : f.literalText? = some text) :
      OperandDrawing frame top grid suffix d (some f) none (some text) grid d
  | node {f : Formula} {number : Nat} {d₁ d' : Drawing α} {box : Box α}
      (hf : ∀ name arguments, f ≠ .function name arguments) (hliteral : f.literalText? = none)
      (hticket : Draw.ticket "lit" d = .ok (number, d₁))
      (hellipse : Draw.ellipse frame.cfg f.label
        (Draw.cell frame.cfg frame.left top frame.columns grid.placed)
        (d₁.canvas.group ++ "-literal-" ++ frame.role.name ++ "-" ++ suffix ++ "-" ++
          toString number) "function" d₁ = .ok (box, d')) :
      OperandDrawing frame top grid suffix d (some f) (some box) none
        { grid with placed := grid.placed + 1 } d'

/-- An operand is drawn in one of these ways. -/
theorem operand_ok {suffix : String} {f? : Option Formula} {box? : Option (Box α)}
    {text? : Option String}
    (hdraw : frame.operand top grid suffix f? d = .ok ((box?, text?, grid'), d')) :
    OperandDrawing frame top grid suffix d f? box? text? grid' d' := by
  have hother (f : Formula) (hf : ∀ name arguments, f ≠ .function name arguments)
      (hdraw : frame.operand top grid suffix (some f) d = .ok ((box?, text?, grid'), d')) :
      OperandDrawing frame top grid suffix d (some f) box? text? grid' d' := by
    rw [operand.eq_3 frame top grid suffix f hf] at hdraw
    cases hliteral : f.literalText? with
    | some text =>
      simp only [hliteral] at hdraw
      obtain ⟨heq, rfl⟩ := Draw.pure_ok_iff.mp hdraw
      simp only [Prod.mk.injEq] at heq
      obtain ⟨rfl, rfl, rfl⟩ := heq
      exact .literal hf hliteral
    | none =>
      simp only [hliteral] at hdraw
      obtain ⟨number, d₁, hticket, hdraw⟩ := Draw.bind_ok_iff.mp hdraw
      obtain ⟨group, d₂, hgroup, hdraw⟩ := Draw.bind_ok_iff.mp hdraw
      obtain ⟨rfl, rfl⟩ := Draw.group_ok_iff.mp hgroup
      obtain ⟨⟨box', grid₁⟩, d₃, hnode, hdraw⟩ := Draw.bind_ok_iff.mp hdraw
      obtain ⟨heq, rfl⟩ := Draw.pure_ok_iff.mp hdraw
      simp only [Prod.mk.injEq] at heq
      obtain ⟨rfl, rfl, rfl⟩ := heq
      obtain ⟨hellipse, rfl⟩ := operandNode_ok hnode
      exact .node hf hliteral hticket hellipse
  match f? with
  | none =>
    obtain ⟨heq, rfl⟩ := Draw.pure_ok_iff.mp hdraw
    simp only [Prod.mk.injEq] at heq
    obtain ⟨rfl, rfl, rfl⟩ := heq
    exact .missing
  | some f =>
    cases f with
    | function name arguments =>
      obtain ⟨⟨box, grid₁⟩, d₁, hnode, hdraw⟩ := Draw.bind_ok_iff.mp hdraw
      obtain ⟨heq, rfl⟩ := Draw.pure_ok_iff.mp hdraw
      simp only [Prod.mk.injEq] at heq
      obtain ⟨rfl, rfl, rfl⟩ := heq
      exact .function hnode
    | _ => exact hother _ (by simp) hdraw

/-- How the node of an operator comes about: it is found by its key, or it is drawn. -/
inductive OperatorDrawing (frame : ComparisonFrame α) (top : α) (grid : OperatorGrid α)
    (c : PlacedComparison α) (d : Drawing α) : Box α → OperatorGrid α → Drawing α → Prop
  | found {box : Box α} (hfind : (c.key.bind fun key => grid.known.lookup key) = some box) :
      OperatorDrawing frame top grid c d box grid d
  | drawn {number : Nat} {d₁ d' : Drawing α} {box : Box α}
      (hfind : (c.key.bind fun key => grid.known.lookup key) = none)
      (hticket : Draw.ticket "op" d = .ok (number, d₁))
      (hellipse : Draw.ellipse frame.cfg c.label
        (Draw.cell frame.cfg frame.left top frame.columns grid.placed)
        (d₁.canvas.group ++ "-operator-" ++ frame.role.name ++ "-" ++ toString c.index ++ "-" ++
          toString number) "operator" d₁ = .ok (box, d')) :
      OperatorDrawing frame top grid c d box
        { placed := grid.placed + 1
          known := grid.known ++ (c.key.map fun key => (key, box)).toList } d'

/-- The node of an operator is found or drawn. -/
theorem operatorNode_ok {grid grid' : OperatorGrid α} {c : PlacedComparison α}
    (hdraw : frame.operatorNode top grid c d = .ok ((box, grid'), d')) :
    OperatorDrawing frame top grid c d box grid' d' := by
  cases hfind : c.key.bind fun key => grid.known.lookup key with
  | some known =>
    simp only [operatorNode, hfind] at hdraw
    obtain ⟨heq, rfl⟩ := Draw.pure_ok_iff.mp hdraw
    obtain ⟨rfl, rfl⟩ := Prod.mk.inj heq
    exact .found hfind
  | none =>
    simp only [operatorNode, hfind] at hdraw
    obtain ⟨number, d₁, hticket, hdraw⟩ := Draw.bind_ok_iff.mp hdraw
    obtain ⟨group, d₂, hgroup, hdraw⟩ := Draw.bind_ok_iff.mp hdraw
    obtain ⟨rfl, rfl⟩ := Draw.group_ok_iff.mp hgroup
    obtain ⟨box', d₃, hcell, hdraw⟩ := Draw.bind_ok_iff.mp hdraw
    obtain ⟨-, hellipse⟩ := Draw.inCell_ok_iff.mp hcell
    obtain ⟨heq, rfl⟩ := Draw.pure_ok_iff.mp hdraw
    obtain ⟨rfl, rfl⟩ := Prod.mk.inj heq
    have hdrawing := OperatorDrawing.drawn hfind hticket hellipse
    cases hkey : c.key <;> simpa [hkey] using hdrawing

/-- An arrow at an operand is drawn if the operand has a node. -/
def ArrowDrawing (box? : Option (Box α)) (draw : Box α → Draw α Unit) (d d' : Drawing α) : Prop :=
  (box? = none ∧ d' = d) ∨ ∃ box, box? = some box ∧ draw box d = .ok ((), d')

/-- The operator of the first comparison is drawn with its arrows, and then the others. -/
theorem drawOperators_cons_ok {grid grid' : OperatorGrid α} {c : PlacedComparison α}
    {rest : List (PlacedComparison α)}
    (hdraw : frame.drawOperators top grid (c :: rest) d = .ok (grid', d')) :
    ∃ box grid₁ d₁ d₂ d₃, frame.operatorNode top grid c d = .ok ((box, grid₁), d₁) ∧
      ArrowDrawing c.left (fun left => frame.comparisonEdge "in" left box) d₁ d₂ ∧
      ArrowDrawing c.right (fun right => frame.comparisonEdge "out" box right) d₂ d₃ ∧
      frame.drawOperators top grid₁ rest d₃ = .ok (grid', d') := by
  obtain ⟨⟨box, grid₁⟩, d₁, hnode, hdraw⟩ := Draw.bind_ok_iff.mp hdraw
  dsimp only at hdraw
  obtain ⟨d₂, hdraw, hleft⟩ := Draw.optional_ok c.left
    (fun left => frame.comparisonEdge "in" left box) hdraw (fun hleft => by rw [hleft])
    fun left hleft => by rw [hleft]
  obtain ⟨d₃, hdraw, hright⟩ := Draw.optional_ok c.right
    (fun right => frame.comparisonEdge "out" box right) hdraw (fun hright => by rw [hright])
    fun right hright => by rw [hright]
  exact ⟨box, grid₁, d₁, d₂, d₃, hnode, hleft, hright, hdraw⟩

end ComparisonFrame

end PlanDiagram.Diagram
