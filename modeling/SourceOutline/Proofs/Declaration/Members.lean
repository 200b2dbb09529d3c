import SourceOutline.Number.Total
import SourceOutline.Proofs.Declaration.OneRecord
import SourceOutline.Proofs.Tree.Path

/-!
# Which members of a class are found

A member is told by its path.  The first step of the path leads from the class to its
body, the second to a named child of the body, and every other step through a wrapper:
to any named child of one that is flattened, to the first child under its field of one
that is not.  The node at the end is no wrapper, and it can be called.

Members are found with a list of nodes still to come.  A turn takes the first of them,
and a wrapper is replaced by the nodes that stand in its place.  What a list still gives
is a concatenation, one part for each node, and the paths below a wrapper divide into
those below its stand-ins; so the members come out along the paths of the class in
pre-order.  The paths that no member ends count as turns too, and there are no others, so
it is known when the list is empty.
-/

namespace SourceOutline

/-! ## Steps -/

/-- Whether a step leads to a node that stands in place of its parent. -/
def Unwrap.leads (edge : Node.Edge) : Unwrap → Bool
  | .flatten => edge.parent.children[edge.index]?.any Node.named
  | .field name => edge.parent.children.findIdx? (Node.hasField name) == some edge.index

namespace Vocabulary

def throughWrapper (vocabulary : Vocabulary) (edge : Node.Edge) : Bool :=
  (vocabulary.memberWrappers.lookup edge.parent.kind).any fun unwrap => unwrap.leads edge

def throughWrappers (vocabulary : Vocabulary) (edges : List Node.Edge) : Bool :=
  edges.all vocabulary.throughWrapper

/-- Whether these are steps from the body of a class to where a member can be. -/
def fromBody (vocabulary : Vocabulary) : List Node.Edge → Bool
  | [] => false
  | first :: others => Unwrap.flatten.leads first && vocabulary.throughWrappers others

/-- Whether these are steps from a class to where a member can be. -/
def fromClass (vocabulary : Vocabulary) : List Node.Edge → Bool
  | [] => false
  | first :: others =>
      (Unwrap.field vocabulary.classBodyField).leads first && vocabulary.fromBody others

/-! ## What can be called -/

/-- The declarators below a node, each the first one of the node before it. -/
def declarators (node : Node) : List Node :=
  match _h : node.child? "declarator" with
  | some inner => inner :: declarators inner
  | none => []
termination_by node.size
decreasing_by exact Node.size_lt_of_child? _h

def isFunctionDeclarator (vocabulary : Vocabulary) (node : Node) : Bool :=
  vocabulary.functionDeclaratorKinds.contains node.kind

/-- A declarator of a function that is not around a parenthesised one. -/
def Declares (node : Node) : Prop :=
  ∀ inner ∈ node.child? "declarator", inner.kind ≠ "parenthesized_declarator"

/-- The first declarator of a function that the declarators of a node reach is not around
a parenthesised one. -/
def DeclaresFunction (vocabulary : Vocabulary) (node : Node) : Prop :=
  ∃ declarator ∈ (declarators node).find? vocabulary.isFunctionDeclarator, Declares declarator

/-- A function under a field, when the fields in front of it hold none. -/
def HasFunction (vocabulary : Vocabulary) (node value : Node) : Prop :=
  ∃ front field back, vocabulary.bindingValueFields = front ++ field :: back ∧
    (node.child? field = some value ∧ value.kind ∈ vocabulary.functionValueKinds) ∧
    ∀ other ∈ front, ∀ child ∈ node.child? other, child.kind ∉ vocabulary.functionValueKinds

/-- A type of functions, which may stand in an annotation. -/
def HasFunctionType (vocabulary : Vocabulary) (node type : Node) : Prop :=
  (∃ outer ∈ node.child? "type", type =
    if outer.kind = "type_annotation" then outer.namedChildren.head?.getD outer else outer) ∧
    type.kind ∈ vocabulary.functionTypeKinds

/-- What a node has to be to be called, and the node of its signature.  Of the parts that
its kind plays the first decides. -/
inductive Callable (vocabulary : Vocabulary) (node : Node) : Node → Prop where
  | function (hkind : node.kind ∈ vocabulary.memberFunctionKinds) :
      Callable vocabulary node node
  | prototype (hfunction : node.kind ∉ vocabulary.memberFunctionKinds)
      (hkind : node.kind ∈ vocabulary.memberPrototypeKinds)
      (hdeclares : vocabulary.DeclaresFunction node) : Callable vocabulary node node
  | property {value : Node} (hfunction : node.kind ∉ vocabulary.memberFunctionKinds)
      (hprototype : node.kind ∉ vocabulary.memberPrototypeKinds)
      (hkind : node.kind ∈ vocabulary.memberPropertyKinds)
      (hvalue : vocabulary.HasFunction node value ∨
        (∀ other, ¬ vocabulary.HasFunction node other) ∧
          vocabulary.HasFunctionType node value) : Callable vocabulary node value

variable {vocabulary : Vocabulary} {node value : Node}

theorem declarators_eq (node : Node) :
    declarators node =
      (node.child? "declarator").elim [] fun inner => inner :: declarators inner := by
  rw [declarators]
  split <;> simp_all

/-- The first function declarator of the chain decides. -/
theorem leadsToFunction_iff (declarator : Node) :
    vocabulary.leadsToFunction declarator ↔
      ∃ found ∈ (declarator :: declarators declarator).find? vocabulary.isFunctionDeclarator,
        Declares found := by
  fun_induction leadsToFunction vocabulary declarator with
  | case1 declarator inner hinner hfunction =>
      have hfirst : vocabulary.isFunctionDeclarator declarator := hfunction
      simp [hfirst, Declares, hinner]
  | case2 declarator inner hinner hother ih =>
      have hnext : ¬ vocabulary.isFunctionDeclarator declarator = true := hother
      rw [List.find?_cons_of_neg hnext, declarators_eq, hinner]
      exact ih
  | case3 declarator hnone =>
      rw [declarators_eq, hnone]
      by_cases hfunction : vocabulary.isFunctionDeclarator declarator <;>
        simp_all [isFunctionDeclarator, Declares]

theorem isPrototype_iff : vocabulary.isPrototype node ↔ vocabulary.DeclaresFunction node := by
  unfold isPrototype DeclaresFunction
  rw [declarators_eq]
  cases node.child? "declarator" with
  | none => simp
  | some inner => simpa using leadsToFunction_iff inner

theorem functionValue?_eq_some_iff :
    vocabulary.functionValue? node = some value ↔ vocabulary.HasFunction node value := by
  simp [functionValue?, HasFunction, List.findSome?_eq_some_iff]

theorem memberValue?_eq_some_iff :
    vocabulary.memberValue? node = some value ↔
      vocabulary.HasFunction node value ∨
        (∀ other, ¬ vocabulary.HasFunction node other) ∧
          vocabulary.HasFunctionType node value := by
  simp only [← functionValue?_eq_some_iff]
  unfold memberValue?
  cases hfunction : vocabulary.functionValue? node with
  | some found => simp
  | none =>
      simp only [Option.bind_eq_some_iff, reduceCtorEq, not_false_eq_true, implies_true, true_and,
        false_or, HasFunctionType, Option.mem_def]
      constructor
      · rintro ⟨outer, houter, hinner⟩
        obtain ⟨hkind, hsame⟩ := Option.ite_none_right_eq_some.mp hinner
        obtain rfl := Option.some.inj hsame
        exact ⟨⟨outer, houter, rfl⟩, List.contains_iff_mem.mp hkind⟩
      · rintro ⟨⟨outer, houter, rfl⟩, hkind⟩
        exact ⟨outer, houter, if_pos (List.contains_iff_mem.mpr hkind)⟩

theorem member?_eq_some_iff {member : Member} :
    vocabulary.member? node = some member ↔
      member.node = node ∧ vocabulary.Callable node member.signature := by
  obtain ⟨place, signature⟩ := member
  unfold member?
  split
  next hfunction =>
    have hkind := List.contains_iff_mem.mp hfunction
    rw [Option.some.injEq, Member.mk.injEq]
    constructor
    · rintro ⟨rfl, rfl⟩
      exact ⟨rfl, .function hkind⟩
    · rintro ⟨rfl, hcallable⟩
      cases hcallable with
      | function => exact ⟨rfl, rfl⟩
      | prototype hother | property hother => exact absurd hkind hother
  next hfunction =>
    have hnoFunction := fun h => hfunction (List.contains_iff_mem.mpr h)
    split
    next hprototype =>
      have hkind := List.contains_iff_mem.mp hprototype
      rw [Option.ite_none_right_eq_some, Option.some.injEq, Member.mk.injEq, isPrototype_iff]
      constructor
      · rintro ⟨hdeclares, rfl, rfl⟩
        exact ⟨rfl, .prototype hnoFunction hkind hdeclares⟩
      · rintro ⟨rfl, hcallable⟩
        cases hcallable with
        | function hother => exact absurd hother hnoFunction
        | prototype _ _ hdeclares => exact ⟨hdeclares, rfl, rfl⟩
        | property _ hother => exact absurd hkind hother
    next hprototype =>
      have hnoPrototype := fun h => hprototype (List.contains_iff_mem.mpr h)
      rw [Option.ite_none_right_eq_some, Option.map_eq_some_iff]
      simp only [Member.mk.injEq, memberValue?_eq_some_iff]
      constructor
      · rintro ⟨hproperty, value, hvalue, rfl, rfl⟩
        exact ⟨rfl, .property hnoFunction hnoPrototype (List.contains_iff_mem.mp hproperty) hvalue⟩
      · rintro ⟨rfl, hcallable⟩
        cases hcallable with
        | function hother => exact absurd hother hnoFunction
        | prototype _ hother => exact absurd hother hnoPrototype
        | property _ _ hkind hvalue =>
            exact ⟨List.contains_iff_mem.mpr hkind, signature, hvalue, rfl, rfl⟩

/-! ## Along paths -/

/-- The member that a node is, unless it is a wrapper. -/
def yielded? (vocabulary : Vocabulary) (node : Node) : Option Member :=
  match vocabulary.memberWrappers.lookup node.kind with
  | some _ => none
  | none => vocabulary.member? node

/-- The nodes that come in the place of a node. -/
def standIns (vocabulary : Vocabulary) (node : Node) : List Node :=
  match vocabulary.memberWrappers.lookup node.kind with
  | some unwrap => unwrapped node unwrap
  | none => []

section

variable {α : Type} (result : Node → Option α)

/-- What is found at the end of a path whose steps are as they should be. -/
def along (steps : List Node.Edge → Bool) (node : Node) (path : List Nat) : Option α :=
  if steps (node.edges path) then (node.at? path).bind result else none

theorem along_cons
    {steps others : List Node.Edge → Bool} {first : Node.Edge → Bool}
    (hsteps : ∀ edge edges, steps (edge :: edges) = (first edge && others edges))
    {node child : Node} {index : Nat} (hchild : node.children[index]? = some child)
    (rest : List Nat) :
    along result steps node (index :: rest) =
      if first ⟨node, index⟩ then along result others child rest else none := by
  unfold along
  rw [Node.edges_cons hchild, hsteps, Node.at?_cons, hchild, Option.bind_some]
  cases first ⟨node, index⟩ <;> simp

/-- What is found along the paths into one sibling is all that is found along the paths
into siblings, if nothing is found along the others. -/
theorem filterMap_pathsFrom_find?
    (p : Node → Bool) (results : Node → List Nat → Option α) (atPath : List Nat → Option α)
    (index : Nat) {nodes : List Node}
    (hpaths : ∀ offset child rest, nodes[offset]? = some child →
      atPath ((index + offset) :: rest) =
        if nodes.findIdx? p = some offset then results child rest else none) :
    (Node.pathsFrom index nodes).filterMap atPath =
      (nodes.find? p).toList.flatMap fun child => child.paths.filterMap (results child) := by
  induction nodes generalizing index with
  | nil => simp
  | cons first nodes ih =>
      have hfirst := fun rest => hpaths 0 first rest rfl
      have hothers : ∀ offset child rest, nodes[offset]? = some child →
          atPath ((index + 1 + offset) :: rest) =
            if (first :: nodes).findIdx? p = some (offset + 1) then results child rest
            else none := by
        intro offset child rest hchild
        rw [Nat.add_right_comm, Nat.add_assoc]
        exact hpaths (offset + 1) child rest hchild
      rw [Node.pathsFrom_cons, List.filterMap_append, List.filterMap_map]
      cases hp : p first with
      | true =>
          have hbehind := Node.filterMap_pathsFrom (fun _ _ => none) atPath (index + 1)
            fun offset child rest (hchild : nodes[offset]? = some child) => by
              simpa [List.findIdx?_cons, hp] using hothers offset child rest hchild
          have hfront : first.paths.filterMap (atPath ∘ (index :: ·)) =
              first.paths.filterMap (results first) := by
            apply List.filterMap_congr
            intro rest _
            simpa [List.findIdx?_cons, hp] using hfirst rest
          rw [hfront, hbehind]
          simp [hp]
      | false =>
          have hbehind := ih (index + 1) fun offset child rest hchild => by
            simpa [List.findIdx?_cons, hp] using hothers offset child rest hchild
          have hfront : first.paths.filterMap (atPath ∘ (index :: ·)) = [] := by
            rw [List.filterMap_eq_nil_iff]
            intro rest _
            simpa [List.findIdx?_cons, hp] using hfirst rest
          rw [hfront, hbehind]
          simp [hp]

/-- The paths into the nodes that stand in place of a wrapper. -/
theorem filterMap_pathsFrom_unwrapped
    (unwrap : Unwrap) (node : Node) (results : Node → List Nat → Option α)
    (atPath : List Nat → Option α)
    (hpaths : ∀ index child rest, node.children[index]? = some child →
      atPath (index :: rest) = if unwrap.leads ⟨node, index⟩ then results child rest else none) :
    (Node.pathsFrom 0 node.children).filterMap atPath =
      (unwrapped node unwrap).flatMap fun child => child.paths.filterMap (results child) := by
  cases unwrap with
  | flatten =>
      have hnamed := Node.filterMap_pathsFrom
        (fun child rest => if child.named then results child rest else none) atPath 0
        fun index child rest (hchild : node.children[index]? = some child) => by
          simpa [Unwrap.leads, hchild] using hpaths index child rest hchild
      rw [hnamed, unwrapped, Node.namedChildren]
      induction node.children with
      | nil => rfl
      | cons first others ih =>
          rw [List.flatMap_cons, ih, List.filter_cons]
          cases first.named <;> simp
  | field name =>
      exact filterMap_pathsFrom_find? (Node.hasField name) results atPath 0
        fun index child rest hchild => by
          simpa [Unwrap.leads] using hpaths index child rest hchild

theorem filterMap_paths_unwrapped
    {steps others : List Node.Edge → Bool} {unwrap : Unwrap} (hnone : steps [] = false)
    (hsteps : ∀ edge edges, steps (edge :: edges) = (unwrap.leads edge && others edges))
    (node : Node) :
    node.paths.filterMap (along result steps node) =
      (unwrapped node unwrap).flatMap fun child =>
        child.paths.filterMap (along result others child) := by
  have hhere : along result steps node [] = none := by
    simp [along, hnone]
  rw [Node.paths_eq, List.filterMap_cons_none hhere]
  apply filterMap_pathsFrom_unwrapped
  intro index child rest hchild
  exact along_cons result hsteps hchild rest

theorem filterMap_paths_standIns (vocabulary : Vocabulary) (node : Node) :
    node.paths.filterMap (along result vocabulary.throughWrappers node) =
      (result node).toList ++ (vocabulary.standIns node).flatMap fun child =>
        child.paths.filterMap (along result vocabulary.throughWrappers child) := by
  have hhere : along result vocabulary.throughWrappers node [] = result node := by
    simp [along, throughWrappers]
  have hbelow : ∀ index child rest, node.children[index]? = some child →
      along result vocabulary.throughWrappers node (index :: rest) =
        if vocabulary.throughWrapper ⟨node, index⟩ then
          along result vocabulary.throughWrappers child rest
        else none := by
    intro index child rest hchild
    exact along_cons result (fun edge edges => List.all_cons) hchild rest
  have hpaths : node.paths.filterMap (along result vocabulary.throughWrappers node) =
      (result node).toList ++ (Node.pathsFrom 0 node.children).filterMap
        (along result vocabulary.throughWrappers node) := by
    rw [Node.paths_eq, List.filterMap_cons, hhere]
    cases result node <;> rfl
  rw [hpaths, standIns]
  congr 1
  split
  next unwrap hunwrap =>
    apply filterMap_pathsFrom_unwrapped
    intro index child rest hchild
    have hleads : vocabulary.throughWrapper ⟨node, index⟩ = unwrap.leads ⟨node, index⟩ := by
      simp [throughWrapper, hunwrap]
    rw [hbelow index child rest hchild, hleads]
  next hbare =>
    rw [List.flatMap_nil, List.filterMap_eq_nil_iff]
    intro path hpath
    obtain ⟨offset, child, rest, hchild, rfl, _⟩ := Node.mem_pathsFrom.mp hpath
    have hstays : vocabulary.throughWrapper ⟨node, offset⟩ = false := by
      simp [throughWrapper, hbare]
    simpa [hstays] using hbelow offset child rest hchild

end

/-! ## The list of nodes still to come -/

/-- The nodes with which the list begins: the named children of the body. -/
def memberList (vocabulary : Vocabulary) (node : Node) : List Node :=
  (unwrapped node (.field vocabulary.classBodyField)).flatMap Node.namedChildren

theorem members_eq_membersFrom (vocabulary : Vocabulary) (node : Node) :
    vocabulary.members node = vocabulary.membersFrom (vocabulary.memberList node) := by
  unfold members memberList
  cases hbody : node.child? vocabulary.classBodyField with
  | none => simp [unwrapped, hbody, membersFrom]
  | some body => simp [unwrapped, hbody]

theorem fromBody_cons (vocabulary : Vocabulary) (edge : Node.Edge) (edges : List Node.Edge) :
    vocabulary.fromBody (edge :: edges) =
      (Unwrap.flatten.leads edge && vocabulary.throughWrappers edges) := rfl

theorem fromClass_cons (vocabulary : Vocabulary) (edge : Node.Edge) (edges : List Node.Edge) :
    vocabulary.fromClass (edge :: edges) =
      ((Unwrap.field vocabulary.classBodyField).leads edge && vocabulary.fromBody edges) := rfl

theorem filterMap_paths_fromClass {α : Type} (result : Node → Option α) (node : Node) :
    node.paths.filterMap (along result vocabulary.fromClass node) =
      (vocabulary.memberList node).flatMap fun child =>
        child.paths.filterMap (along result vocabulary.throughWrappers child) := by
  rw [filterMap_paths_unwrapped result rfl vocabulary.fromClass_cons node, memberList,
    List.flatMap_assoc]
  congr 1
  funext body
  exact filterMap_paths_unwrapped result rfl vocabulary.fromBody_cons body

/-- One turn of the member walk: a node yields itself or is replaced by its stand-ins. -/
theorem membersFrom_cons (vocabulary : Vocabulary) (node : Node) (rest : List Node) :
    vocabulary.membersFrom (node :: rest) =
      (vocabulary.yielded? node).toList ++
        vocabulary.membersFrom (vocabulary.standIns node ++ rest) := by
  rw [membersFrom]
  unfold yielded? standIns
  cases vocabulary.memberWrappers.lookup node.kind with
  | some unwrap => rfl
  | none => cases vocabulary.member? node <;> rfl

/-- The whole member walk yields what the paths through wrappers reach. -/
theorem membersFrom_eq_flatMap (vocabulary : Vocabulary) (pending : List Node) :
    vocabulary.membersFrom pending =
      pending.flatMap fun node =>
        node.paths.filterMap (along vocabulary.yielded? vocabulary.throughWrappers node) := by
  fun_induction membersFrom vocabulary pending with
  | case1 => rfl
  | case2 node rest unwrap hwrapper ih =>
      rw [ih, List.flatMap_append, List.flatMap_cons, filterMap_paths_standIns]
      simp [yielded?, standIns, hwrapper]
  | case3 node rest hbare member hmember ih =>
      rw [ih, List.flatMap_cons, filterMap_paths_standIns]
      simp [yielded?, standIns, hbare, hmember]
  | case4 node rest hbare hnone ih =>
      rw [ih, List.flatMap_cons, filterMap_paths_standIns]
      simp [yielded?, standIns, hbare, hnone]

/-- One turn: what the first node of the list yields, and the nodes then still to come. -/
def memberTurn (vocabulary : Vocabulary) : List Node → List Member × List Node
  | [] => ([], [])
  | node :: rest => ((vocabulary.yielded? node).toList, vocabulary.standIns node ++ rest)

def memberTurns (vocabulary : Vocabulary) : Nat → List Node → List Member × List Node
  | 0, pending => ([], pending)
  | count + 1, pending =>
      let first := vocabulary.memberTurn pending
      let others := vocabulary.memberTurns count first.2
      (first.1 ++ others.1, others.2)

/-- How many nodes the list comes to hold below a node, itself included. -/
def held (vocabulary : Vocabulary) (node : Node) : Nat :=
  (node.paths.filterMap (along (fun _ => some ()) vocabulary.throughWrappers node)).length

def heldAll (vocabulary : Vocabulary) (pending : List Node) : Nat :=
  total (pending.map vocabulary.held)

theorem length_flatMap_held (vocabulary : Vocabulary) (pending : List Node) :
    (pending.flatMap fun node =>
      node.paths.filterMap (along (fun _ => some ()) vocabulary.throughWrappers node)).length =
        vocabulary.heldAll pending := by
  induction pending with
  | nil => rfl
  | cons node rest ih =>
      rw [List.flatMap_cons, List.length_append, ih]
      rfl

/-- Each turn of the member walk uses up one of the nodes that the pending ones hold. -/
theorem heldAll_turn (vocabulary : Vocabulary) (node : Node) (rest : List Node) :
    vocabulary.heldAll (node :: rest) =
      vocabulary.heldAll (vocabulary.memberTurn (node :: rest)).2 + 1 := by
  rw [← length_flatMap_held, ← length_flatMap_held, List.flatMap_cons, filterMap_paths_standIns,
    memberTurn, List.flatMap_append]
  simp only [Option.toList_some, List.length_append, List.length_singleton]
  omega

/-- The list is empty after exactly as many turns as there are nodes for it to hold, and
from then on every member has been yielded. -/
theorem memberTurns_eq (vocabulary : Vocabulary) (count : Nat) (pending : List Node) :
    ((vocabulary.memberTurns count pending).2 = [] ↔ vocabulary.heldAll pending ≤ count) ∧
      (vocabulary.heldAll pending ≤ count →
        (vocabulary.memberTurns count pending).1 = vocabulary.membersFrom pending) := by
  induction count generalizing pending with
  | zero =>
      cases pending with
      | nil => simp [memberTurns, heldAll, membersFrom]
      | cons node rest =>
          have hone := vocabulary.heldAll_turn node rest
          simp [memberTurns, hone]
  | succ count ih =>
      cases pending with
      | nil =>
          have hnone := ih []
          simp_all [memberTurns, memberTurn, heldAll, membersFrom]
      | cons node rest =>
          obtain ⟨hover, hmembers⟩ := ih (vocabulary.memberTurn (node :: rest)).2
          have hone := vocabulary.heldAll_turn node rest
          simp only [memberTurns, hone, Nat.add_le_add_iff_right]
          refine ⟨hover, ?_⟩
          intro hcount
          rw [hmembers hcount, membersFrom_cons]
          rfl

/-! ## All members -/

/-- A member that a path from its class leads to. -/
structure MemberAt (vocabulary : Vocabulary) (node : Node) (path : List Nat) (member : Member) :
    Prop where
  stands : node.at? path = some member.node
  reached : vocabulary.fromClass (node.edges path)
  bare : vocabulary.memberWrappers.lookup member.node.kind = none
  callable : vocabulary.Callable member.node member.signature

theorem yielded?_eq_some_iff {member : Member} :
    vocabulary.yielded? node = some member ↔
      member.node = node ∧ vocabulary.memberWrappers.lookup node.kind = none ∧
        vocabulary.Callable node member.signature := by
  unfold yielded?
  split
  next unwrap hwrapper => simp [hwrapper]
  next hbare => simp [hbare, member?_eq_some_iff]

theorem along_eq_some_iff {path : List Nat} {member : Member} :
    along vocabulary.yielded? vocabulary.fromClass node path = some member ↔
      vocabulary.MemberAt node path member := by
  unfold along
  rw [Option.ite_none_right_eq_some, Option.bind_eq_some_iff]
  constructor
  · rintro ⟨hreached, inner, hstands, hyielded⟩
    obtain ⟨rfl, hbare, hcallable⟩ := yielded?_eq_some_iff.mp hyielded
    exact ⟨hstands, hreached, hbare, hcallable⟩
  · intro hmember
    exact ⟨hmember.reached, member.node, hmember.stands,
      yielded?_eq_some_iff.mpr ⟨rfl, hmember.bare, hmember.callable⟩⟩

/-- The members of a class with the paths that lead to them. -/
def membersByPath (vocabulary : Vocabulary) (node : Node) : List (List Nat × Member) :=
  node.paths.filterMap fun path =>
    (along vocabulary.yielded? vocabulary.fromClass node path).map (path, ·)

theorem map_snd_membersByPath (vocabulary : Vocabulary) (node : Node) :
    (vocabulary.membersByPath node).map Prod.snd = vocabulary.members node := by
  rw [members_eq_membersFrom, membersFrom_eq_flatMap, ← filterMap_paths_fromClass, membersByPath,
    List.map_filterMap]
  simp [Function.comp_def]

theorem mem_membersByPath {path : List Nat} {member : Member} :
    (path, member) ∈ vocabulary.membersByPath node ↔ vocabulary.MemberAt node path member := by
  rw [← along_eq_some_iff, membersByPath, List.mem_filterMap]
  simp only [Option.map_eq_some_iff, Prod.mk.injEq]
  constructor
  · rintro ⟨other, _, found, hfound, rfl, rfl⟩
    exact hfound
  · intro hfound
    have hstands := (along_eq_some_iff.mp hfound).stands
    have hpath : path ∈ node.paths := by
      rw [Node.mem_paths_iff, hstands]
      rfl
    exact ⟨path, hpath, member, hfound, rfl, rfl⟩

theorem membersByPath_increasing (vocabulary : Vocabulary) (node : Node) :
    ((vocabulary.membersByPath node).map Prod.fst).Pairwise (· < ·) := by
  rw [List.pairwise_map]
  refine List.Pairwise.filterMap _ ?_ node.paths_increasing
  intro front back hlt found hfound other hother
  obtain ⟨_, _, rfl⟩ := Option.map_eq_some_iff.mp hfound
  obtain ⟨_, _, rfl⟩ := Option.map_eq_some_iff.mp hother
  exact hlt

theorem heldAll_memberList (vocabulary : Vocabulary) (node : Node) :
    vocabulary.heldAll (vocabulary.memberList node) =
      node.paths.countP fun path => vocabulary.fromClass (node.edges path) := by
  rw [← length_flatMap_held, ← filterMap_paths_fromClass, List.length_filterMap_eq_countP]
  apply List.countP_congr
  intro path hpath
  obtain ⟨inner, hinner⟩ := Option.isSome_iff_exists.mp ((node.mem_paths_iff path).mp hpath)
  simp [along, hinner]

/-- The members of a class are exactly the nodes that can be called at the ends of the paths
through its body and through wrappers, each with its signature, in pre-order, none twice.
The list of nodes still to come is empty after one turn for each of these paths. -/
theorem members_exact (vocabulary : Vocabulary) (node : Node) :
    (∃ found : List (List Nat × Member),
      found.map Prod.snd = vocabulary.members node ∧
        (found.map Prod.fst).Pairwise (· < ·) ∧
        ∀ path member, (path, member) ∈ found ↔ vocabulary.MemberAt node path member) ∧
      ((vocabulary.members node).map Member.node).Sublist node.preorder ∧
      (∀ count,
        (vocabulary.memberTurns count (vocabulary.memberList node)).2 = [] ↔
          node.paths.countP (fun path => vocabulary.fromClass (node.edges path)) ≤ count) ∧
      ∀ extra,
        vocabulary.memberTurns
            (node.paths.countP (fun path => vocabulary.fromClass (node.edges path)) + extra)
            (vocabulary.memberList node) =
          (vocabulary.members node, []) := by
  refine ⟨⟨vocabulary.membersByPath node, vocabulary.map_snd_membersByPath node,
    vocabulary.membersByPath_increasing node, fun path member => mem_membersByPath⟩, ?_, ?_, ?_⟩
  · cases hbody : node.child? vocabulary.classBodyField with
    | none => simp [members, hbody]
    | some body =>
        have hbelow := Node.preorderAll_sublist_preorder (Node.child?_sublist_children hbody)
        rw [Node.preorderAll_cons, Node.preorderAll_nil, List.append_nil] at hbelow
        exact (members_sublist_body hbody).trans hbelow
  · intro count
    rw [← heldAll_memberList]
    exact (vocabulary.memberTurns_eq count _).1
  · intro extra
    rw [← heldAll_memberList, members_eq_membersFrom]
    have hend := vocabulary.memberTurns_eq
      (vocabulary.heldAll (vocabulary.memberList node) + extra) (vocabulary.memberList node)
    have henough := Nat.le_add_right (vocabulary.heldAll (vocabulary.memberList node)) extra
    exact Prod.ext (hend.2 henough) (hend.1.mpr henough)

end Vocabulary
end SourceOutline
