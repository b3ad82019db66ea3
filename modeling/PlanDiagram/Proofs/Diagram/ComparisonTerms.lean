import PlanDiagram.Proofs.Diagram.ComparisonBand
import PlanDiagram.Proofs.Diagram.FunctionTerms

/-!
# Function terms in a band of comparisons

The function terms that are drawn in a band of comparisons are the operands of the comparisons
themselves. All terms with the same function name stand on one ellipse, which shows the name.
Drawing the operands asks for no arrows, and every arrow that is drawn with the operators has an
operator at one end.
-/

namespace PlanDiagram

/-- The function term that a formula is. -/
def Formula.functionTerm? : Formula → Option FunctionTerm
  | .function name arguments => some ⟨name, arguments⟩
  | _ => none

/-- The function terms among the two operands of a comparison. -/
def ComparisonUse.operandTerms (use : ComparisonUse) : List FunctionTerm :=
  (use.arguments.take 2).filterMap Formula.functionTerm?

namespace Diagram

/-- The function term that a use of a function shows. -/
def FunctionUse.term {α : Type} (use : FunctionUse α) : FunctionTerm :=
  ⟨use.name, use.arguments⟩

namespace ComparisonFrame

variable {α : Type} {frame : ComparisonFrame α} {d d' : Drawing α} {role : Role}

/-- The families of functions. -/
def functionFamilies (role : Role) : List Family :=
  [functionFamily role .left, functionFamily role .right]

/-- The functions of a grid are the ellipses of functions on the canvas, in order, and every use is
found by its name. -/
structure Recorded (grid : OperandGrid α) (role : Role) (d : Drawing α) : Prop where
  names_nodup : (grid.functions.map Prod.fst).Nodup
  nodes : List.Forall₂ (fun entry n =>
      n.box = entry.2 ∧ n.box.shape = .ellipse ∧ n.text = entry.1)
    grid.functions (nodesIn (functionFamilies role) d.canvas.elements)
  uses : ∀ use ∈ grid.uses, grid.functions.lookup use.name = some use.box

/-- A grid without functions is recorded where there are no ellipses of functions. -/
theorem Recorded.of_empty (h : nodesIn (functionFamilies role) d.canvas.elements = []) :
    Recorded {} role d :=
  ⟨.nil, by rw [h]; exact .nil, by simp⟩

/-- Only the functions of a grid, their uses and the ellipses matter. -/
theorem Recorded.of_eq {grid grid' : OperandGrid α} (h : Recorded grid role d)
    (hfunctions : grid'.functions = grid.functions) (huses : grid'.uses = grid.uses)
    (hnodes : nodesIn (functionFamilies role) d'.canvas.elements =
      nodesIn (functionFamilies role) d.canvas.elements) : Recorded grid' role d' := by
  constructor
  · rw [hfunctions]
    exact h.names_nodup
  · rw [hfunctions, hnodes]
    exact h.nodes
  · rw [hfunctions, huses]
    exact h.uses

/-- Drawing an arrow asks for it. -/
theorem comparisonEdge_draws {families : List Family} {direction : String} {source target : Box α}
    {u : Unit} (hdraw : frame.comparisonEdge direction source target d = .ok (u, d')) :
    Draws families [] (· = (source.id, target.id)) d d' := by
  obtain ⟨number, d₁, hticket, hdraw⟩ := Draw.bind_ok_iff.mp hdraw
  obtain ⟨group, d₂, hgroup, hedge⟩ := Draw.bind_ok_iff.mp hdraw
  obtain ⟨rfl, rfl⟩ := Draw.group_ok_iff.mp hgroup
  refine ((Draw.ticket_draws hticket).trans (Draw.edge_draws hedge)).congr fun p => ?_
  simp [arrowsOf, noArrow]

variable [Add α] [Mul α] [LT α] [DecidableLT α] [Scalar α]

/-- Drawing the node of a function, or finding it, records the use. -/
theorem functionNode_draws {top : α} {grid grid' : OperandGrid α} {side : Side} {index : Nat}
    {suffix name : String} {arguments : List Formula} {box : Box α}
    (hdraw : frame.functionNode top grid suffix name arguments d = .ok ((box, grid'), d'))
    (hsuffix : suffix = "comp-" ++ side.name ++ "-" ++ toString index)
    (hgrid : Recorded grid frame.role d) :
    (∃ nodes, Draws (functionFamilies frame.role) nodes noArrow d d') ∧
      Recorded grid' frame.role d' ∧ grid'.uses = grid.uses ++ [⟨box, name, arguments⟩] := by
  cases functionNode_ok hdraw with
  | found hlookup =>
    refine ⟨⟨[], .refl d⟩, ⟨hgrid.names_nodup, hgrid.nodes, fun use huse => ?_⟩, rfl⟩
    rcases List.mem_append.mp huse with huse | huse
    · exact hgrid.uses use huse
    · rw [List.mem_singleton.mp huse]
      exact hlookup
  | @drawn number d₁ _ _ hlookup hticket hellipse =>
    obtain ⟨n, rfl, hn⟩ := Draw.ellipse_draws hellipse
      (names_function d₁.canvas.group frame.role side hsuffix number name)
    have hside : [functionFamily frame.role side] ⊆ functionFamilies frame.role := by
      cases side <;> simp [functionFamilies]
    have hdraws : Draws (functionFamilies frame.role) [n] noArrow d d' :=
      ((Draw.ticket_draws hticket).trans (hn.draws.mono hside)).congr (by simp [arrowsOf, noArrow])
    have hnew : name ∉ grid.functions.map Prod.fst := by
      intro hmem
      obtain ⟨entry, hentry, rfl⟩ := List.mem_map.mp hmem
      simpa using List.lookup_eq_none_iff.mp hlookup entry hentry
    refine ⟨⟨[n], hdraws⟩, ⟨?_, ?_, fun use huse => ?_⟩, rfl⟩
    · rw [List.map_append, List.map_singleton, ← List.concat_eq_append]
      exact hgrid.names_nodup.concat hnew
    · rw [hdraws.nodesIn_append (List.Subset.refl _)]
      exact List.rel_append hgrid.nodes (.cons ⟨rfl, hn.shape_eq, hn.text_eq⟩ .nil)
    · rw [List.lookup_append]
      rcases List.mem_append.mp huse with huse | huse
      · rw [hgrid.uses use huse]
        rfl
      · rw [List.mem_singleton.mp huse, hlookup]
        simp

/-- Drawing an operand records it if it is a function term. -/
theorem operand_draws {top : α} {grid grid' : OperandGrid α} (side : Side) {index : Nat}
    {suffix : String} {f? : Option Formula} {box? : Option (Box α)} {text? : Option String}
    (hdraw : frame.operand top grid suffix f? d = .ok ((box?, text?, grid'), d'))
    (hsuffix : suffix = "comp-" ++ side.name ++ "-" ++ toString index)
    (hgrid : Recorded grid frame.role d) :
    (∃ nodes, Draws (operandFamilies frame.role) nodes noArrow d d') ∧
      Recorded grid' frame.role d' ∧
      grid'.uses.map FunctionUse.term =
        grid.uses.map FunctionUse.term ++ (f?.bind Formula.functionTerm?).toList := by
  cases operand_ok hdraw with
  | missing => exact ⟨⟨[], .refl d⟩, hgrid, (List.append_nil _).symm⟩
  | @literal f text hf hliteral =>
    rw [Option.bind_some, Formula.functionTerm?.eq_2 f hf]
    exact ⟨⟨[], .refl d⟩, hgrid, (List.append_nil _).symm⟩
  | function hnode =>
    obtain ⟨⟨nodes, hdraws⟩, hgrid', huses⟩ := functionNode_draws hnode hsuffix hgrid
    refine ⟨⟨nodes, hdraws.mono (by simp [functionFamilies, operandFamilies])⟩, hgrid', ?_⟩
    rw [huses, List.map_append]
    rfl
  | @node f number d₁ _ box hf hliteral hticket hellipse =>
    obtain ⟨n, -, hn⟩ := Draw.ellipse_draws hellipse
      (names_numbered d₁.canvas.group "literal" (by decide) (by decide) frame.role suffix number)
    have hdraws : Draws [literalFamily frame.role] [n] noArrow d d' :=
      ((Draw.ticket_draws hticket).trans hn.draws).congr (by simp [arrowsOf, noArrow])
    have hapart : ∀ g ∈ [literalFamily frame.role], ∀ f ∈ functionFamilies frame.role,
        g.Apart f := by
      cases frame.role <;> decide +kernel
    rw [Option.bind_some, Formula.functionTerm?.eq_2 f hf]
    exact ⟨⟨[n], hdraws.mono (by simp [operandFamilies])⟩,
      hgrid.of_eq rfl rfl (hdraws.nodesIn_eq hapart), (List.append_nil _).symm⟩

/-- Drawing the operands of comparisons records the function terms among them. -/
theorem drawOperands_draws {top : α} {uses : List ComparisonUse} {index : Nat}
    {grid grid' : OperandGrid α} {placed : List (PlacedComparison α)}
    (hdraw : frame.drawOperands top index grid uses d = .ok ((placed, grid'), d'))
    (hgrid : Recorded grid frame.role d) :
    (∃ nodes, Draws (operandFamilies frame.role) nodes noArrow d d') ∧
      Recorded grid' frame.role d' ∧
      grid'.uses.map FunctionUse.term =
        grid.uses.map FunctionUse.term ++ uses.flatMap ComparisonUse.operandTerms := by
  induction uses generalizing index grid d placed with
  | nil =>
    obtain ⟨heq, rfl⟩ := Draw.pure_ok_iff.mp hdraw
    obtain ⟨rfl, rfl⟩ := Prod.mk.inj heq
    exact ⟨⟨[], .refl d⟩, hgrid, (List.append_nil _).symm⟩
  | cons use rest ih =>
    obtain ⟨⟨left, leftText, grid₁⟩, d₁, hleft, hdraw⟩ := Draw.bind_ok_iff.mp hdraw
    obtain ⟨⟨right, rightText, grid₂⟩, d₂, hright, hdraw⟩ := Draw.bind_ok_iff.mp hdraw
    obtain ⟨⟨others, grid₃⟩, d₃, hrest, hdraw⟩ := Draw.bind_ok_iff.mp hdraw
    obtain ⟨heq, rfl⟩ := Draw.pure_ok_iff.mp hdraw
    obtain ⟨rfl, rfl⟩ := Prod.mk.inj heq
    obtain ⟨⟨nodes₁, hdraws₁⟩, hgrid₁, huses₁⟩ := operand_draws .left hleft rfl hgrid
    obtain ⟨⟨nodes₂, hdraws₂⟩, hgrid₂, huses₂⟩ := operand_draws .right hright rfl hgrid₁
    obtain ⟨⟨nodes₃, hdraws₃⟩, hgrid₃, huses₃⟩ := ih hrest hgrid₂
    have hterms : use.operandTerms =
        ((use.arguments[0]?).bind Formula.functionTerm?).toList ++
          ((use.arguments[1]?).bind Formula.functionTerm?).toList := by
      unfold ComparisonUse.operandTerms
      rcases use.arguments with _ | ⟨f, _ | ⟨g, others⟩⟩
      · rfl
      · cases hf : f.functionTerm? <;> simp [hf]
      · cases hf : f.functionTerm? <;> cases hg : g.functionTerm? <;> simp [hf, hg]
    refine ⟨⟨_, ((hdraws₁.trans hdraws₂).trans hdraws₃).congr (by simp [arrowsOf, noArrow])⟩,
      hgrid₃, ?_⟩
    rw [huses₃, huses₂, huses₁, List.flatMap_cons, hterms]
    simp only [List.append_assoc]

/-- The operators of a grid have nodes on the canvas. -/
def OperatorsDrawn (grid : OperatorGrid α) (role : Role) (d : Drawing α) : Prop :=
  ∀ entry ∈ grid.known, ∃ n ∈ nodesIn [operatorFamily role] d.canvas.elements, n.box = entry.2

/-- Drawing the node of an operator, or finding it. -/
theorem operatorNode_draws {top : α} {grid grid' : OperatorGrid α} {c : PlacedComparison α}
    {box : Box α} (hdraw : frame.operatorNode top grid c d = .ok ((box, grid'), d'))
    (hgrid : OperatorsDrawn grid frame.role d) :
    (∃ nodes, Draws [operatorFamily frame.role] nodes noArrow d d') ∧
      OperatorsDrawn grid' frame.role d' ∧
      ∃ n ∈ nodesIn [operatorFamily frame.role] d'.canvas.elements, n.box = box := by
  cases operatorNode_ok hdraw with
  | found hfind =>
    obtain ⟨key, -, hlookup⟩ := Option.bind_eq_some_iff.mp hfind
    obtain ⟨front, back, hknown, -⟩ := List.lookup_eq_some_iff.mp hlookup
    exact ⟨⟨[], .refl d⟩, hgrid, hgrid (key, box) (by simp [hknown])⟩
  | @drawn number d₁ _ _ hfind hticket hellipse =>
    obtain ⟨n, rfl, hn⟩ := Draw.ellipse_draws hellipse
      (names_numbered d₁.canvas.group "operator" (by decide) (by decide) frame.role
        (toString c.index) number)
    have hdraws : Draws [operatorFamily frame.role] [n] noArrow d d' :=
      ((Draw.ticket_draws hticket).trans hn.draws).congr (by simp [arrowsOf, noArrow])
    refine ⟨⟨[n], hdraws⟩, fun entry hentry => ?_, n, hn.mem_nodesIn, rfl⟩
    rcases List.mem_append.mp hentry with hentry | hentry
    · exact (hgrid entry hentry).imp fun m hm => ⟨hdraws.mem_nodesIn hm.1, hm.2⟩
    · obtain ⟨key, -, rfl⟩ := Option.map_eq_some_iff.mp (Option.mem_toList.mp hentry)
      exact ⟨n, hn.mem_nodesIn, rfl⟩

/-- Every arrow that is asked for has an operator at one end. -/
def AtOperators (role : Role) (asked : String × String → Prop) (d : Drawing α) : Prop :=
  ∀ p, asked p → ∃ o ∈ nodesIn [operatorFamily role] d.canvas.elements,
    p.1 = o.box.id ∨ p.2 = o.box.id

omit [Add α] [Mul α] [LT α] [DecidableLT α] [Scalar α] in
/-- An arrow that is left out if an operand has no node is asked for otherwise. -/
theorem ArrowDrawing.draws {box? : Option (Box α)} {draw : Box α → Draw α Unit}
    {families : List Family} {ends : Box α → String × String} (h : ArrowDrawing box? draw d d')
    (hedge : ∀ box, draw box d = .ok ((), d') → Draws families [] (· = ends box) d d') :
    Draws families [] (fun p => ∃ box, box? = some box ∧ p = ends box) d d' := by
  rcases h with ⟨rfl, rfl⟩ | ⟨box, rfl, hdrawn⟩
  · exact (Draws.refl d').congr (by simp [noArrow])
  · exact (hedge box hdrawn).congr (by simp)

/-- Drawing the operators of comparisons asks for arrows at operators only. -/
theorem drawOperators_draws {top : α} {cs : List (PlacedComparison α)}
    {grid grid' : OperatorGrid α}
    (hdraw : frame.drawOperators top grid cs d = .ok (grid', d'))
    (hgrid : OperatorsDrawn grid frame.role d) :
    ∃ nodes asked, Draws [operatorFamily frame.role] nodes asked d d' ∧
      AtOperators frame.role asked d' := by
  induction cs generalizing grid d with
  | nil =>
    obtain ⟨rfl, rfl⟩ := Draw.pure_ok_iff.mp hdraw
    exact ⟨[], noArrow, .refl d, by simp [AtOperators, noArrow]⟩
  | cons c rest ih =>
    obtain ⟨box, grid₁, d₁, d₂, d₃, hnode, hleft, hright, hdraw⟩ := drawOperators_cons_ok hdraw
    obtain ⟨⟨nodes, hdraws⟩, hgrid₁, n, hn, rfl⟩ := operatorNode_draws hnode hgrid
    have hdraws₂ : Draws [operatorFamily frame.role] [] _ d₁ d₂ :=
      hleft.draws fun left hedge => comparisonEdge_draws hedge
    have hdraws₃ : Draws [operatorFamily frame.role] [] _ d₂ d₃ :=
      hright.draws fun right hedge => comparisonEdge_draws hedge
    have hall := (hdraws.trans hdraws₂).trans hdraws₃
    have hlater := hdraws₂.trans hdraws₃
    have hgrid₃ : OperatorsDrawn grid₁ frame.role d₃ := fun entry hentry =>
      (hgrid₁ entry hentry).imp fun m hm => ⟨hlater.mem_nodesIn hm.1, hm.2⟩
    obtain ⟨others, asked, hrest, hasked⟩ := ih hdraw hgrid₃
    have hn' := hrest.mem_nodesIn (hlater.mem_nodesIn hn)
    refine ⟨_, _, hall.trans hrest, ?_⟩
    rintro p (((hp | ⟨left, -, rfl⟩) | ⟨right, -, rfl⟩) | hp)
    · exact hp.elim
    · exact ⟨n, hn', .inr rfl⟩
    · exact ⟨n, hn', .inl rfl⟩
    · exact hasked p hp

end ComparisonFrame

end Diagram

end PlanDiagram
