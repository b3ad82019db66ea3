import PlanDiagram.Proofs.Diagram.ActionContents
import PlanDiagram.Proofs.Diagram.ProblemContents

/-!
# Arrows of arguments

The literals of an action are connected with the rectangles of its parameters, and the literals and
functions of a problem with the rectangles of its objects. Main statement: the arrows at an ellipse
are those for which its uses ask, into the ellipse from the anchor of the first name of a use, and
out of it to the anchors of later names. What is undeclared asks for no arrow and does not turn the
others, and no arrow is drawn twice.
-/

namespace PlanDiagram.Diagram

variable {α : Type}

/-- The arguments of the function terms with a name, in order. -/
def namedUses (terms : List FunctionTerm) (name : String) : List (List Formula) :=
  (terms.filter (·.name == name)).map FunctionTerm.arguments

namespace ActionBlock

open NumericFrame (parameterFamily functionFamily operatorFamily)

/-- The literals of an action are connected with its parameters. -/
structure Connected (action : Action) (elements : List (Element α)) : Prop where
  /-- There is one rectangle for each parameter, in order. -/
  rectangles : List.Forall₂ (fun p n => n.text = p.label ∧ n.box.shape = .rectangle)
    action.parameters (nodesIn [parameterFamily] elements)
  /-- No arrow is drawn twice. -/
  connections_nodup : (connections elements).Nodup
  /-- The arrows at the ellipse of a literal are those of the literals with its text. -/
  literals : ∀ role, ∀ e ∈ nodesIn [roleFamily role] elements,
    ArgumentArrows (anchor? action.parameters (nodesIn [parameterFamily] elements))
      (nodesIn [operatorFamily] elements) (labelledUses (action.found role).literals e.text)
      elements e

/-- The literals of a block are connected. -/
theorem Contents.connected {action : Action} {functions : List (FunctionNode α)}
    {elements : List (Element α)} (h : Contents action functions elements) :
    Connected action elements := by
  refine ⟨h.wired.rectangles, h.wired.connections_nodup, fun role e he => ?_⟩
  refine h.wired.argumentArrows (by decide +kernel) (by decide +kernel) (mem_nodesIn_users he) ?_
  refine literal_uses_iff h.wired.ids_nodup h.literals (exists_of_mem_drawnFunctions h.nodes) ?_ he
  intro role
  cases role <;> decide +kernel

end ActionBlock

namespace ProblemBlock

open ComparisonFrame (functionFamilies)

/-- The literals and functions of a problem are connected with its objects. -/
structure Connected (problem : Problem) (elements : List (Element α)) : Prop where
  /-- There is one rectangle for each object, in order. -/
  rectangles : List.Forall₂ (fun p n => n.text = p.label ∧ n.box.shape = .rectangle)
    problem.objects (nodesIn [objectFamily] elements)
  /-- No arrow is drawn twice. -/
  connections_nodup : (connections elements).Nodup
  /-- The arrows at the ellipse of a literal are those of the literals with its text. -/
  literals : ∀ role, ∀ e ∈ nodesIn [roleFamily role] elements,
    ArgumentArrows (anchor? problem.objects (nodesIn [objectFamily] elements))
      (nodesIn allOperators elements) (labelledUses (problem.found role).literals e.text) elements e
  /-- The arrows at the ellipse of a function, apart from those of operators, are those of the
  function terms with its text as name. -/
  functions : ∀ role, ∀ e ∈ nodesIn (functionFamilies role) elements,
    ArgumentArrows (anchor? problem.objects (nodesIn [objectFamily] elements))
      (nodesIn allOperators elements) (namedUses (problem.functionTerms role) e.text) elements e

/-- The families of functions are families of nodes. -/
theorem mem_nodeFamilies_of_function {role : Role} {f : Family} (hf : f ∈ functionFamilies role) :
    f ∈ nodeFamilies := by
  revert f
  cases role <;> decide +kernel

/-- Functions of different roles are told apart. -/
theorem functionFamilies_apart {role role' : Role} (h : role ≠ role') :
    ∀ f ∈ functionFamilies role, ∀ g ∈ functionFamilies role', f.Apart g := by
  have hnot : ∀ f ∈ functionFamilies role, f ∉ functionFamilies role' := by
    revert h
    cases role <;> cases role' <;> decide +kernel
  exact nodeFamilies_distinct.apart (fun f hf => ⟨mem_nodeFamilies_of_function hf, hnot f hf⟩)
    fun g hg => mem_nodeFamilies_of_function hg

/-- Functions are told apart from literals. -/
theorem function_apart_literal (role : Role) :
    ∀ f ∈ allFunctionFamilies, f.Apart (roleFamily role) := by
  have hnot : ∀ f ∈ allFunctionFamilies, f ∈ nodeFamilies ∧ f ∉ allRoles.map roleFamily := by
    decide +kernel
  have hall : ∀ g ∈ allRoles.map roleFamily, g ∈ nodeFamilies := by
    decide +kernel
  exact fun f hf => nodeFamilies_distinct.apart hnot hall f hf _
    (List.mem_map_of_mem (mem_allRoles role))

namespace Contents

variable {problem : Problem} {functions : List (Box α × String × List Formula)}
  {elements : List (Element α)}

/-- Functions are drawn on ellipses of functions. -/
theorem exists_of_mem_functions (h : Contents problem functions elements) :
    ∀ node ∈ functions, ∃ n ∈ nodesIn allFunctionFamilies elements, n.box = node.1 := by
  intro node hnode
  obtain ⟨role, t, -, n, hn, -, rfl⟩ := (h.mem_functions_iff node).mp hnode
  exact ⟨n, mem_nodesIn_functions hn, rfl⟩

/-- The arguments that are drawn on the ellipse of a function are those of the function terms of its
role with its text as name. -/
theorem function_uses_iff (h : Contents problem functions elements) {role : Role} {e : Node α}
    (he : e ∈ nodesIn (functionFamilies role) elements) (arguments : List Formula) :
    arguments ∈ namedUses (problem.functionTerms role) e.text ↔
      ∃ node ∈ drawn problem functions elements,
        node.1.id = e.box.id ∧ node.2.2 = arguments := by
  have hids := h.wired.ids_nodup
  constructor
  · intro hmem
    obtain ⟨t, ht, rfl⟩ := List.mem_map.mp hmem
    obtain ⟨ht, hname⟩ := List.mem_filter.mp ht
    refine ⟨(e.box, t.name, t.arguments), mem_drawnOn_iff.mpr (.inr ?_), rfl, rfl⟩
    exact (h.mem_functions_iff _).mpr ⟨role, t, ht, e, he, (beq_iff_eq.mp hname).symm, rfl⟩
  · rintro ⟨node, hnode, hid, rfl⟩
    rcases mem_drawnOn_iff.mp hnode with ⟨role', hnode⟩ | hnode
    · obtain ⟨l, -, n, hn, -, rfl⟩ := (h.literals role').mem_literalsOn_iff.mp hnode
      refine absurd hid.symm
        (id_ne_of_apart hids (fun f hf g hg => ?_) (mem_nodesIn_functions he) hn)
      rw [List.mem_singleton.mp hg]
      exact function_apart_literal role' f hf
    · obtain ⟨role', t, ht, n, hn, htext, rfl⟩ := (h.mem_functions_iff node).mp hnode
      obtain rfl : role' = role := by
        by_contra hne
        exact id_ne_of_apart hids (functionFamilies_apart hne) hn he hid
      obtain rfl := node_eq_of_id_eq hids (mem_nodesOf_of_mem_nodesIn hn)
        (mem_nodesOf_of_mem_nodesIn he) hid
      exact List.mem_map_of_mem (List.mem_filter.mpr ⟨ht, beq_iff_eq.mpr htext.symm⟩)

/-- The literals and functions of a block are connected. -/
theorem connected (h : Contents problem functions elements) : Connected problem elements := by
  have hanchors : ∀ f ∈ [objectFamily], ∀ g ∈ allOperators ++ userFamilies allFunctionFamilies,
      f.Apart g :=
    nodeFamilies_distinct.apart (by decide +kernel) (by decide +kernel)
  have husers : ∀ f ∈ userFamilies allFunctionFamilies, ∀ g ∈ allOperators, f.Apart g :=
    nodeFamilies_distinct.apart (by decide +kernel) (by decide +kernel)
  refine ⟨h.wired.rectangles, h.wired.connections_nodup, fun role e he => ?_, fun role e he => ?_⟩
  · exact h.wired.argumentArrows hanchors husers (mem_nodesIn_users he)
      (literal_uses_iff h.wired.ids_nodup h.literals h.exists_of_mem_functions
        function_apart_literal he)
  · exact h.wired.argumentArrows hanchors husers
      (nodesIn_mono (List.subset_append_right _ _) (mem_nodesIn_functions he))
      (h.function_uses_iff he)

end Contents

end ProblemBlock

variable [Add α] [Sub α] [Mul α] [LT α] [DecidableLT α] [Scalar α] {cfg : Config α}
  {session : Session} {x y : α}

/-- In whatever is drawn for an action or problem, ellipses are connected with parameters or objects
as the arguments of their uses ask, and with nothing else but operators. -/
theorem blocks_connected :
    (∀ {action : Action} {block : Block α},
      (actionBlock cfg session action x y).2 = .ok block →
        ActionBlock.Connected action block.elements) ∧
    ∀ {problem : Problem} {block : Block α},
      (problemBlock cfg session problem x y).2 = .ok block →
        ProblemBlock.Connected problem block.elements := by
  constructor
  · intro action block h
    obtain ⟨d', hdraw⟩ := Draw.exists_of_run h
    obtain ⟨functions, hcontents⟩ := ActionBlock.draw_contents hdraw rfl rfl
    exact hcontents.connected
  · intro problem block h
    obtain ⟨d', hdraw⟩ := Draw.exists_of_run h
    obtain ⟨functions, hcontents⟩ := ProblemBlock.draw_contents hdraw rfl rfl
    exact hcontents.connected

/-- A problem in which roads lead in both directions, an object is declared twice, and the vehicle
of the goal is not declared. -/
def roadProblem : Problem where
  name := "roads"
  objects := [{ name := "north" }, { name := "south" }, { name := "north" }]
  init := [
    .predicate "road" [.parameter "north" .null, .parameter "south" .null],
    .predicate "road" [.parameter "south" .null, .parameter "north" .null],
    .comparison "=" [.function "distance" [.parameter "south" .null, .parameter "north" .null],
      .number 3.0]]
  goal := some (.predicate "at" [.parameter "truck" .null, .parameter "south" .null])

/-- An action and a problem are drawn, and their ellipses are connected. -/
theorem blocks_connected_roadProblem :
    (∃ block, (actionBlock Config.rational {} moveAction 0 0).2 = .ok block ∧
      ActionBlock.Connected moveAction block.elements) ∧
    ∃ block, (problemBlock Config.rational {} roadProblem 0 0).2 = .ok block ∧
      ProblemBlock.Connected roadProblem block.elements := by
  obtain ⟨block, h⟩ : ∃ block, (actionBlock Config.rational {} moveAction 0 0).2 = .ok block :=
    exists_of_isOk (by decide +kernel)
  obtain ⟨block', h'⟩ : ∃ block,
      (problemBlock Config.rational {} roadProblem 0 0).2 = .ok block :=
    exists_of_isOk (by decide +kernel)
  exact ⟨⟨block, h, blocks_connected.1 h⟩, block', h', blocks_connected.2 h'⟩

end PlanDiagram.Diagram
