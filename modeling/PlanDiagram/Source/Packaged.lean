import PlanDiagram.Source.FileTree

/-!
# Packaged examples

A small delivery domain with a problem for it, the same problem as a payload, and a file of
settings. They come with the program and are found also where no such files exist.
-/

namespace PlanDiagram.Source.Packaged

/-- A text with the given lines. -/
def lines (ls : List String) : String :=
  String.join (ls.map (· ++ "\n"))

/-- The settings. -/
def settings : String :=
  lines [
    "# Layout settings read by LayoutConfig.from_yaml; omitted keys keep their defaults.",
    "layout:",
    "  node_width: 120",
    "  node_height: 60",
    "  parameter_scale: 0.7",
    "  spacing_x: 200",
    "  spacing_y: 110",
    "  start_x: 100",
    "  start_y: 100",
    "  action_columns: 3",
    "  problem_max_columns: 8",
    "  colors:",
    "    precondition: \"#f28b82\"",
    "    effect: \"#81c995\""]

/-- The domain. -/
def domain : String :=
  lines [
    "; Delivery robot moving packages between rooms.",
    "(define (domain robot-delivery)",
    "  (:requirements :strips :typing :numeric-fluents)",
    "  (:types robot location package - object)",
    "  (:predicates",
    "    (at ?r - robot ?l - location)",
    "    (connected ?from - location ?to - location)",
    "    (package-at ?p - package ?l - location)",
    "    (carrying ?r - robot ?p - package)",
    "    (hand-empty ?r - robot))",
    "  (:functions",
    "    (battery ?r - robot)",
    "    (total-cost) - number)",
    "",
    "  (:action move",
    "    :parameters (?r - robot ?from - location ?to - location)",
    "    :precondition (and (at ?r ?from) (connected ?from ?to) (>= (battery ?r) 1))",
    "    :effect (and (not (at ?r ?from)) (at ?r ?to)",
    "                 (decrease (battery ?r) 1)",
    "                 (increase (total-cost) 1)))",
    "",
    "  (:action pick-up",
    "    :parameters (?r - robot ?p - package ?l - location)",
    "    :precondition (and (at ?r ?l) (package-at ?p ?l) (hand-empty ?r))",
    "    :effect (and (carrying ?r ?p) (not (package-at ?p ?l)) (not (hand-empty ?r))))",
    "",
    "  (:action drop",
    "    :parameters (?r - robot ?p - package ?l - location)",
    "    :precondition (and (at ?r ?l) (carrying ?r ?p))",
    "    :effect (and (package-at ?p ?l) (hand-empty ?r) (not (carrying ?r ?p)))))"]

/-- The problem. -/
def problem : String :=
  lines [
    "(define (problem deliver-one)",
    "  (:domain robot-delivery)",
    "  (:objects r1 - robot hall kitchen lab - location box - package)",
    "  (:init",
    "    (at r1 hall)",
    "    (hand-empty r1)",
    "    (package-at box kitchen)",
    "    (connected hall kitchen)",
    "    (connected kitchen hall)",
    "    (connected kitchen lab)",
    "    (connected lab kitchen)",
    "    (= (battery r1) 10)",
    "    (= (total-cost) 0))",
    "  (:goal (and (package-at box lab) (at r1 hall)))",
    "  (:metric minimize (total-cost)))"]

/-- The problem as a payload. -/
def payload : String :=
  lines [
    "# Parsing-service payload for a one-robot problem.",
    "name: deliver-one",
    "domain_name: robot-delivery",
    "initDescription: Robot r1 waits in the hall; the box is in the kitchen.",
    "goalDescription: Bring the box to the lab and return to the hall.",
    "objects:",
    "  - \x7bname: r1, type: robot\x7d",
    "  - \x7bname: hall, type: location\x7d",
    "  - \x7bname: kitchen, type: location\x7d",
    "  - \x7bname: box, type: package\x7d",
    "init:",
    "  - type: predicate",
    "    name: at",
    "    arguments: [\x7bname: r1, type: robot\x7d, \x7bname: hall, type: location\x7d]",
    "  - type: predicate",
    "    name: package-at",
    "    arguments: [\x7bname: box, type: package\x7d, \x7bname: kitchen, type: location\x7d]",
    "goal:",
    "  type: predicate",
    "  name: package-at",
    "  arguments: [\x7bname: box, type: package\x7d, \x7bname: hall, type: location\x7d]"]

/-- The directory that holds the examples. -/
def directory : String :=
  "examples"

/-- The examples in their directory. -/
def tree : FileTree where
  files := [
    ([directory, "layout.yaml"], settings),
    ([directory, "robot-domain.pddl"], domain),
    ([directory, "robot-problem.pddl"], problem),
    ([directory, "robot-problem.yaml"], payload)]

/-- The example that a path leads to from the directory of the examples. -/
def find? (p : Path) : Option String :=
  (tree.openPath [directory] p).toOption

end PlanDiagram.Source.Packaged
