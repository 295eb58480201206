import Mathlib.Data.List.Chain
import Microbench.Progress.Reporter

/-!
# Trees of events

Structured progress is a tree that is told event by event: the root, the execution below it, groups
below the execution, and runs below the groups. Its events are properly nested: each one is about
the node that was opened last and names the node around it.

A tree grows at its right edge. Its last group may still be open; the cursor of structured progress
is what has to be known about a growing tree to go on with it.
-/

namespace Microbench

namespace Event

/-- What an event does to its node. -/
inductive Move where
  | enter
  | stay
  | leave

/-- What an event does to its node. -/
def move : Event → Move
  | suiteStart .. => .enter
  | testStart .. => .enter
  | output .. => .stay
  | suiteFinish .. => .leave
  | testFinish .. => .leave
  | testFailure .. => .leave

/-- The nodes that are open after an event, innermost first, if the event fits: a node opens
inside the innermost one, and only the innermost node says something or closes. -/
def nest (opened : List String) (event : Event) : Option (List String) :=
  match event.move, opened with
  | .enter, opened =>
    if opened.headD "" = event.parent then some (event.id :: opened) else none
  | .stay, inner :: outer =>
    if inner = event.id ∧ outer.headD "" = event.parent then some opened else none
  | .leave, inner :: outer =>
    if inner = event.id ∧ outer.headD "" = event.parent then some outer else none
  | _, [] => none

/-- The nodes that are open after events, if all of them fit. -/
def nestAll (opened : List String) (events : List Event) : Option (List String) :=
  events.foldlM nest opened

theorem nestAll_append {opened between : List String} {earlier : List Event}
    (fit : nestAll opened earlier = some between) (later : List Event) :
    nestAll opened (earlier ++ later) = nestAll between later := by
  rw [nestAll, List.foldlM_append]
  change (nestAll opened earlier).bind (fun opened => nestAll opened later) = _
  rw [fit, Option.bind_some]

theorem nestAll_cons {opened between : List String} {event : Event}
    (fit : nest opened event = some between) (later : List Event) :
    nestAll opened (event :: later) = nestAll between later := by
  rw [nestAll, List.foldlM_cons, fit]
  rfl

/-- Events that leave the open nodes as they were can follow each other. -/
theorem nestAll_flatMap {α : Type} {opened : List String} {items : List α}
    {events : α → List Event}
    (fit : ∀ item ∈ items, nestAll opened (events item) = some opened) :
    nestAll opened (items.flatMap events) = some opened := by
  induction items with
  | nil => rfl
  | cons item items ih =>
      rw [List.flatMap_cons, nestAll_append (fit item (by simp))]
      apply ih
      intro other member
      exact fit other (by simp [member])

end Event

/-- How a run ends. -/
inductive RunEnd where
  | finished
  /-- It was given up. -/
  | failed (error trace : String)

/-- What a tree shows of a run. -/
structure RunNode where
  /-- The identifier without the class. -/
  method : String
  texts : List String
  ending : RunEnd

namespace RunNode

def id (group : String) (node : RunNode) : String := group ++ "." ++ node.method

/-- Whether the run was given up. -/
def hasFailed (node : RunNode) : Bool :=
  match node.ending with
  | .finished => false
  | .failed .. => true

/-- The event that closes a run in a group. -/
def lastEvent (group : String) (node : RunNode) : Event :=
  match node.ending with
  | .finished => .testFinish group (node.id group) .success
  | .failed error trace => .testFailure group (node.id group) error trace

def events (group : String) (node : RunNode) : List Event :=
  .testStart group group node.method ::
    node.texts.map (.output group (node.id group)) ++ [node.lastEvent group]

theorem nestAll_events (group : String) (opened : List String) (node : RunNode) :
    Event.nestAll (group :: opened) (node.events group) = some (group :: opened) := by
  have said : Event.nestAll (node.id group :: group :: opened)
      (node.texts.map (.output group (node.id group))) =
        some (node.id group :: group :: opened) := by
    rw [List.map_eq_flatMap]
    apply Event.nestAll_flatMap
    intro text _
    simp [Event.nestAll, Event.nest, Event.move, Event.id, Event.parent]
  have begun : Event.nest (group :: opened) (.testStart group group node.method) =
      some (node.id group :: group :: opened) := by
    simp [Event.nest, Event.move, Event.id, Event.parent, id]
  rw [events, List.cons_append, Event.nestAll_cons begun, Event.nestAll_append said, lastEvent]
  cases node.ending with
  | finished => simp [Event.nestAll, Event.nest, Event.move, Event.id, Event.parent]
  | failed error trace => simp [Event.nestAll, Event.nest, Event.move, Event.id, Event.parent]

end RunNode

/-- What a tree shows of runs of one class in a row. -/
structure GroupNode where
  name : String
  runs : List RunNode

/-- How nodes have ended. -/
def statusOf (hasFailed : Bool) : FinishStatus := if hasFailed then .failure else .success

namespace GroupNode

/-- Whether a run was given up. -/
def hasFailed (group : GroupNode) : Bool := group.runs.any RunNode.hasFailed

/-- The events of a group until it closes. -/
def openEvents (suite : String) (group : GroupNode) : List Event :=
  .suiteStart suite group.name :: group.runs.flatMap (RunNode.events group.name)

def events (suite : String) (group : GroupNode) : List Event :=
  group.openEvents suite ++ [.suiteFinish suite group.name (statusOf group.hasFailed)]

theorem nestAll_events (suite : String) (opened : List String) (group : GroupNode) :
    Event.nestAll (suite :: opened) (group.events suite) = some (suite :: opened) := by
  have runs : Event.nestAll (group.name :: suite :: opened)
      (group.runs.flatMap (RunNode.events group.name)) = some (group.name :: suite :: opened) := by
    apply Event.nestAll_flatMap
    intro node _
    exact node.nestAll_events group.name (suite :: opened)
  have begun : Event.nest (suite :: opened) (.suiteStart suite group.name) =
      some (group.name :: suite :: opened) := by
    simp [Event.nest, Event.move, Event.id, Event.parent]
  rw [events, openEvents, List.cons_append, Event.nestAll_cons begun, Event.nestAll_append runs]
  simp [Event.nestAll, Event.nest, Event.move, Event.id, Event.parent]

end GroupNode

/-- What is shown of an execution. -/
structure ProgressTree where
  suite : String
  groups : List GroupNode
  /-- What the execution says at its end. -/
  summary : String

namespace ProgressTree

open Structured (rootId)

/-- The events that open the root and the execution. -/
def firstEvents (suite : String) : List Event := [.suiteStart "" rootId, .suiteStart rootId suite]

/-- The events that follow the groups. -/
def lastEvents (suite summary : String) (hasFailed : Bool) : List Event :=
  [.output rootId suite summary, .suiteFinish rootId suite (statusOf hasFailed),
    .suiteFinish "" rootId (statusOf hasFailed)]

def events (tree : ProgressTree) : List Event :=
  firstEvents tree.suite ++ tree.groups.flatMap (GroupNode.events tree.suite) ++
    lastEvents tree.suite tree.summary (tree.groups.any GroupNode.hasFailed)

/-- The events of a tree are properly nested. -/
theorem nestAll_events (tree : ProgressTree) : Event.nestAll [] tree.events = some [] := by
  have begun : Event.nestAll [] (firstEvents tree.suite) = some [tree.suite, rootId] := by
    simp [firstEvents, Event.nestAll, Event.nest, Event.move, Event.id, Event.parent]
  have groups : Event.nestAll [tree.suite, rootId]
      (tree.groups.flatMap (GroupNode.events tree.suite)) = some [tree.suite, rootId] := by
    apply Event.nestAll_flatMap
    intro group _
    exact group.nestAll_events tree.suite [rootId]
  rw [events, List.append_assoc, Event.nestAll_append begun, Event.nestAll_append groups]
  simp [lastEvents, Event.nestAll, Event.nest, Event.move, Event.id, Event.parent]

end ProgressTree

/-- The groups of a tree that still grows. -/
structure GrowingTree where
  closed : List GroupNode
  opened? : Option GroupNode

namespace GrowingTree

/-- A tree without groups. -/
def seed : GrowingTree := ⟨[], none⟩

def groups (tree : GrowingTree) : List GroupNode := tree.closed ++ tree.opened?.toList

/-- The events so far. -/
def events (suite : String) (tree : GrowingTree) : List Event :=
  ProgressTree.firstEvents suite ++ tree.closed.flatMap (GroupNode.events suite) ++
    tree.opened?.toList.flatMap (GroupNode.openEvents suite)

/-- What structured progress remembers of the tree. -/
def cursor (tree : GrowingTree) : Cursor where
  openClass := (tree.opened?.map GroupNode.name).getD ""
  classStatus := statusOf (tree.opened?.any GroupNode.hasFailed)
  suiteStatus := statusOf (tree.groups.any GroupNode.hasFailed)

/-- Opens a group for a class, unless the open group is of this class. -/
def enter (className : String) (tree : GrowingTree) : GrowingTree :=
  if (tree.opened?.map GroupNode.name).getD "" = className then tree
  else ⟨tree.groups, some ⟨className, []⟩⟩

/-- Adds a run to the open group. -/
def put (node : RunNode) (tree : GrowingTree) : GrowingTree :=
  { tree with opened? := tree.opened?.map fun group =>
      { group with runs := group.runs ++ [node] } }

def add (className : String) (node : RunNode) (tree : GrowingTree) : GrowingTree :=
  (tree.enter className).put node

/-- No group is without a run or without a name, groups of one class do not follow each other, and
the runs are those that were added. -/
structure Holds (shown : List (String × RunNode)) (tree : GrowingTree) : Prop where
  begun : tree.opened? = none → tree.closed = []
  solid : ∀ group ∈ tree.groups, group.runs ≠ []
  named : ∀ group ∈ tree.groups, group.name ≠ ""
  apart : List.IsChain (fun earlier later => earlier.name ≠ later.name) tree.groups
  content : (tree.groups.flatMap fun group => group.runs.map (group.name, ·)) = shown

theorem holds_seed : Holds [] seed := by
  constructor <;> simp [seed, groups]

variable {tree : GrowingTree} {shown : List (String × RunNode)} {className : String}

/-- After a class is entered, a group of this class is open. -/
theorem enter_opened (tree : GrowingTree) (named : className ≠ "") :
    ∃ group, (tree.enter className).opened? = some group ∧ group.name = className := by
  rw [enter]
  split
  · rename_i same
    cases opened : tree.opened? with
    | none =>
        rw [opened] at same
        exact absurd same.symm named
    | some group =>
        rw [opened] at same
        exact ⟨group, rfl, same⟩
  · exact ⟨_, rfl, rfl⟩

/-- The open group can take one more run. -/
theorem Holds.put (holds : tree.Holds shown) {group : GroupNode}
    (opened : tree.opened? = some group) (node : RunNode) :
    (tree.put node).Holds (shown ++ [(group.name, node)]) := by
  have groups : tree.groups = tree.closed ++ [group] := by
    rw [GrowingTree.groups, opened]
    rfl
  have grown : (tree.put node).groups =
      tree.closed ++ [{ group with runs := group.runs ++ [node] }] := by
    rw [GrowingTree.groups, GrowingTree.put, opened]
    rfl
  rcases holds with ⟨-, solid, named, apart, content⟩
  rw [groups] at solid named apart content
  constructor
  case begun => simp [GrowingTree.put, opened]
  case solid =>
    rw [grown]
    intro other member
    rcases List.mem_append.mp member with inClosed | last
    · exact solid other (by simp [inClosed])
    · simp [List.mem_singleton.mp last]
  case named =>
    rw [grown]
    intro other member
    rcases List.mem_append.mp member with inClosed | last
    · exact named other (by simp [inClosed])
    · rw [List.mem_singleton.mp last]
      exact named group (by simp)
  case apart =>
    rw [grown]
    rw [List.isChain_append] at apart ⊢
    refine ⟨apart.1, by simp, ?_⟩
    intro earlier isLast later isFirst
    have different := apart.2.2 earlier isLast group (by simp)
    simp only [List.head?_cons, Option.mem_some_iff] at isFirst
    rw [← isFirst]
    exact different
  case content =>
    rw [grown, ← content]
    simp

/-- The last of all groups is the open one. -/
theorem Holds.openClass_of_getLast? (holds : tree.Holds shown) {group : GroupNode}
    (last : group ∈ tree.groups.getLast?) :
    (tree.opened?.map GroupNode.name).getD "" = group.name := by
  cases opened : tree.opened? with
  | none => simp [GrowingTree.groups, opened, holds.begun opened] at last
  | some other =>
      simp only [GrowingTree.groups, opened, Option.toList_some, List.getLast?_append,
        List.getLast?_singleton, Option.some_or, Option.mem_some_iff] at last
      rw [← last]
      rfl

/-- A run of another class begins a group. -/
theorem Holds.begin (holds : tree.Holds shown) (named : className ≠ "")
    (different : (tree.opened?.map GroupNode.name).getD "" ≠ className) (node : RunNode) :
    (GrowingTree.mk tree.groups (some ⟨className, [node]⟩)).Holds
      (shown ++ [(className, node)]) := by
  have grown : (GrowingTree.mk tree.groups (some ⟨className, [node]⟩)).groups =
      tree.groups ++ [⟨className, [node]⟩] := rfl
  constructor
  case begun => simp
  case solid =>
    rw [grown]
    intro other member
    rcases List.mem_append.mp member with inGroups | last
    · exact holds.solid other inGroups
    · simp [List.mem_singleton.mp last]
  case named =>
    rw [grown]
    intro other member
    rcases List.mem_append.mp member with inGroups | last
    · exact holds.named other inGroups
    · rw [List.mem_singleton.mp last]
      exact named
  case apart =>
    rw [grown, List.isChain_append]
    refine ⟨holds.apart, by simp, ?_⟩
    intro earlier isLast later isFirst
    simp only [List.head?_cons, Option.mem_some_iff] at isFirst
    rw [← isFirst, ← holds.openClass_of_getLast? isLast]
    exact different
  case content =>
    rw [grown, List.flatMap_append, holds.content]
    rfl

/-- A tree stays well-formed when a run is added. -/
theorem Holds.add (holds : tree.Holds shown) (named : className ≠ "") (node : RunNode) :
    (tree.add className node).Holds (shown ++ [(className, node)]) := by
  rw [GrowingTree.add, enter]
  split
  · rename_i same
    cases opened : tree.opened? with
    | none =>
        rw [opened] at same
        exact absurd same.symm named
    | some group =>
        rw [opened] at same
        have sameName : group.name = className := same
        rw [← sameName]
        exact holds.put opened node
  · rename_i different
    exact holds.begin named different node

/-- Entering a class takes the cursor and the events of a tree to those of the tree in which the
class is entered. -/
theorem enterClass_cursor (holds : tree.Holds shown) (suite className : String) :
    ∃ later, Structured.enterClass suite className tree.cursor =
        ((tree.enter className).cursor, later) ∧
      tree.events suite ++ later = (tree.enter className).events suite := by
  rw [Structured.enterClass, enter]
  by_cases same : (tree.opened?.map GroupNode.name).getD "" = className
  · have sameCursor : tree.cursor.openClass = className := same
    rw [if_pos sameCursor, if_pos same]
    exact ⟨[], rfl, List.append_nil _⟩
  · have otherCursor : tree.cursor.openClass ≠ className := same
    rw [if_neg otherCursor, if_neg same]
    have remembered : (⟨tree.groups, some ⟨className, []⟩⟩ : GrowingTree).cursor =
        ⟨className, .success, tree.cursor.suiteStatus⟩ := by
      simp [cursor, groups, GroupNode.hasFailed, statusOf]
    refine ⟨_, by rw [remembered], ?_⟩
    cases opened : tree.opened? with
    | none =>
        simp [events, groups, opened, Structured.closeClass, cursor, GroupNode.openEvents]
    | some group =>
        have named := holds.named group (by simp [groups, opened])
        simp [events, groups, opened, Structured.closeClass, cursor, GroupNode.openEvents,
          GroupNode.events, named]

theorem events_put {group : GroupNode} (opened : tree.opened? = some group) (suite : String)
    (node : RunNode) :
    (tree.put node).events suite = tree.events suite ++ node.events group.name := by
  simp [events, put, opened, GroupNode.openEvents]

theorem cursor_put {group : GroupNode} (opened : tree.opened? = some group) (node : RunNode) :
    (tree.put node).cursor =
      if node.hasFailed then Structured.markFailure tree.cursor else tree.cursor := by
  cases failed : node.hasFailed with
  | false => simp [cursor, put, opened, groups, GroupNode.hasFailed, failed]
  | true => simp [cursor, put, opened, groups, GroupNode.hasFailed, failed, statusOf,
      Structured.markFailure]

/-- The end of an execution completes the tree. -/
theorem step_endSuite (holds : tree.Holds shown) (suite summary : String) :
    tree.events suite ++ (Structured.step tree.cursor (.endSuite suite summary)).2 =
      (ProgressTree.mk suite tree.groups (summary ++ "\n")).events := by
  rw [Structured.step]
  cases opened : tree.opened? with
  | none =>
      simp [events, groups, opened, Structured.closeClass, cursor, ProgressTree.events,
        ProgressTree.lastEvents]
  | some group =>
      have named := holds.named group (by simp [groups, opened])
      simp [events, groups, opened, Structured.closeClass, cursor, ProgressTree.events,
        ProgressTree.lastEvents, GroupNode.events, named]

end GrowingTree

end Microbench
