import PlanDiagram.Diagram.Document
import PlanDiagram.Diagram.ProblemBlock
import PlanDiagram.Document

/-!
# Diagrams of domains and problems

A domain is drawn as one block for each action, a problem as one block. Drawing reports the
arguments that have no node, and the size of each block.
-/

namespace PlanDiagram.Diagram

variable {α : Type} [Add α] [Sub α] [Mul α] [LT α] [DecidableLT α] [Scalar α]

/-- The blocks of a domain or problem, and the session after them. -/
def structureBlocks (cfg : Config α) (session : Session) :
    Structure → Session × Except Fault (List (Block α))
  | .domain domain => domainBlocks cfg session domain
  | .problem problem =>
    let (session, block) := problemBlock cfg session problem cfg.startX cfg.startY
    (session, block.map ([·]))

/-- The elements of blocks, in order. -/
def blockElements (blocks : List (Block α)) : List (Element α) :=
  blocks.flatMap Block.elements

/-- The topic of notices about blocks of actions and about arguments. -/
def actionTopic : String :=
  "pddlviz.graph.action_graph"

/-- The warning about an argument without a node. -/
def Skipped.notice (s : Skipped) : Notice :=
  ⟨.warning, actionTopic,
    "No node for argument '" ++ s.argument ++ "' of " ++ s.owner ++ "; edge skipped"⟩

/-- The notices about the block of an action. -/
def actionNotices (action : Action) (block : Block Float) : List Notice :=
  block.skipped.map Skipped.notice ++
    [⟨.debug, actionTopic, "Action '" ++ action.name ++ "': " ++ toString block.elements.length ++
      " elements, height " ++ Number.writeFloat block.height⟩]

/-- The notices about the block of a problem. -/
def problemNotices (problem : Problem) (block : Block Float) : List Notice :=
  let count (role : Role) (formulas : List (Option Formula)) : String :=
    toString (({} : Occurrences).collect role formulas).distinctLiterals.length
  block.skipped.map Skipped.notice ++
    [⟨.debug, "pddlviz.graph.problem_graph",
      "Problem '" ++ ProblemBlock.shownName problem ++ "': " ++ toString block.elements.length ++
        " elements, " ++ count .init (problem.init.map some) ++ " init / " ++
        count .goal [problem.goal] ++ " goal predicate nodes"⟩]

/-- The notices about the blocks of a domain or problem. -/
def structureNotices (s : Structure) (blocks : List (Block Float)) : List Notice :=
  match s with
  | .domain domain => (List.zipWith actionNotices domain.actions blocks).flatten
  | .problem problem => blocks.flatMap (problemNotices problem)

end PlanDiagram.Diagram
