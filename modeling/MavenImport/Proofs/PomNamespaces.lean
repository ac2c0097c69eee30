/-
# Proofs.PomNamespaces -- POMs with the Maven namespace and without it

A POM may put its elements in the Maven namespace or leave them without one.  What it says is the
same (`ofBytes_inSpace`): each child is looked for under both names, and a tree whose elements all
have one kind of name (`Xml.Element.Bare`, `Xml.Element.inSpace`) has children under one of them
only, in the order of the document (`children_bare`, `children_inSpace`).

The two documents are compared by their trees, so it does not matter how elements come to be in the
namespace: by a default on the root, by prefixes, or by both.
-/
import MavenImport.Proofs.PlainDocuments

namespace MavenImport

set_option autoImplicit false

namespace Xml.Element

/-! ## Trees with names of one kind -/

/-- No element of a tree is in a namespace. -/
inductive Bare : Element → Prop
  | mk {name : Name} {attributes : List (Name × String)} {text : String}
      {children : List Element} (bare : name.space = none) (inner : ∀ c ∈ children, Bare c) :
      Bare (.mk name attributes text children)

mutual

/-- The same tree with every element in a given namespace.  Attributes keep their names. -/
def inSpace (space : String) : Element → Element
  | .mk name attributes text children =>
    .mk ⟨some space, name.label⟩ attributes text (allInSpace space children)

def allInSpace (space : String) : List Element → List Element
  | [] => []
  | e :: es => inSpace space e :: allInSpace space es

end

theorem allInSpace_eq (space : String) :
    ∀ es : List Element, allInSpace space es = es.map (inSpace space)
  | [] => by rw [allInSpace, List.map_nil]
  | e :: es => by rw [allInSpace, allInSpace_eq space es, List.map_cons]

section Trees

variable {space : String} {e : Element}

@[simp] theorem name_inSpace : (e.inSpace space).name = ⟨some space, e.name.label⟩ := by
  cases e
  rw [inSpace]
  rfl

@[simp] theorem text_inSpace : (e.inSpace space).text = e.text := by
  cases e
  rw [inSpace]
  rfl

@[simp] theorem children_inSpace : (e.inSpace space).children = e.children.map (inSpace space) := by
  cases e
  rw [inSpace, children, allInSpace_eq]
  rfl

theorem Bare.name (bare : e.Bare) : e.name = ⟨none, e.name.label⟩ := by
  cases bare with
  | mk bare _ => rw [Element.name, ← bare]

theorem Bare.child (bare : e.Bare) : ∀ c ∈ e.children, c.Bare := by
  cases bare with
  | mk _ inner => exact inner

theorem Bare.childrenNamed_space (bare : e.Bare) (label : String) :
    e.childrenNamed ⟨some space, label⟩ = [] := by
  refine List.filter_eq_nil_iff.mpr fun c listed => ?_
  rw [(bare.child c listed).name]
  simp

theorem childrenNamed_inSpace_none (label : String) :
    (e.inSpace space).childrenNamed ⟨none, label⟩ = [] := by
  refine List.filter_eq_nil_iff.mpr fun c listed => ?_
  obtain ⟨d, -, rfl⟩ := List.mem_map.mp (children_inSpace (e := e) ▸ listed)
  simp

theorem Bare.childrenNamed_inSpace (bare : e.Bare) (label : String) :
    (e.inSpace space).childrenNamed ⟨some space, label⟩
      = (e.childrenNamed ⟨none, label⟩).map (inSpace space) := by
  unfold childrenNamed
  rw [children_inSpace, List.filter_map]
  congr 1
  refine List.filter_congr fun c listed => ?_
  rw [(bare.child c listed).name]
  simp

end Trees

end Xml.Element

/-! ## What a POM says -/

namespace Pom

open Xml (Element)

variable {e : Element}

theorem children_bare (bare : e.Bare) (label : String) :
    children e label = e.childrenNamed ⟨none, label⟩ := by
  simp [children, spellings, bare.childrenNamed_space]

theorem children_inSpace (bare : e.Bare) (label : String) :
    children (e.inSpace mavenNamespace) label
      = (children e label).map (Element.inSpace mavenNamespace) := by
  rw [children_bare bare]
  simp [children, spellings, bare.childrenNamed_inSpace, Element.childrenNamed_inSpace_none]

theorem bare_of_children (bare : e.Bare) {label : String} :
    ∀ c ∈ children e label, c.Bare := by
  intro c listed
  rw [children_bare bare] at listed
  exact bare.child c (List.mem_filter.mp listed).1

theorem child_inSpace (bare : e.Bare) (label : String) :
    child? (e.inSpace mavenNamespace) label
      = (child? e label).map (Element.inSpace mavenNamespace) := by
  rw [child?, children_inSpace bare, List.head?_map, child?]

theorem bare_of_child (bare : e.Bare) {label : String} {c : Element}
    (found : child? e label = some c) : c.Bare :=
  bare_of_children bare c (List.mem_of_mem_head? found)

theorem text_inSpace (bare : e.Bare) (label : String) :
    text? (e.inSpace mavenNamespace) label = text? e label := by
  unfold text?
  rw [child_inSpace bare]
  cases child? e label with
  | none => rfl
  | some c => simp

theorem dependency_inSpace (bare : e.Bare) :
    dependency (e.inSpace mavenNamespace) = dependency e := by
  simp only [dependency, text_inSpace bare]

theorem dependencyList_inSpace (bare : e.Bare) :
    dependencyList (e.inSpace mavenNamespace) = dependencyList e := by
  unfold dependencyList
  rw [child_inSpace bare]
  cases found : child? e "dependencies" with
  | none => rfl
  | some list =>
      have below := bare_of_child bare found
      simp only [Option.map_some]
      rw [children_inSpace below, List.map_map]
      exact List.map_congr_left fun d listed => dependency_inSpace (bare_of_children below d listed)

theorem parentReference_inSpace (bare : e.Bare) :
    parentReference (e.inSpace mavenNamespace) = parentReference e := by
  unfold parentReference
  rw [child_inSpace bare]
  cases found : child? e "parent" with
  | none => rfl
  | some p => simp only [Option.map_some, text_inSpace (bare_of_child bare found)]

/-- Properties go by their local names, so the names below do not matter here. -/
theorem propertyTable_inSpace (bare : e.Bare) :
    propertyTable (e.inSpace mavenNamespace) = propertyTable e := by
  unfold propertyTable
  rw [child_inSpace bare]
  cases child? e "properties" with
  | none => rfl
  | some list => simp [Function.comp_def]

theorem managed_inSpace (bare : e.Bare) :
    (child? (e.inSpace mavenNamespace) "dependencyManagement").map dependencyList
      = (child? e "dependencyManagement").map dependencyList := by
  rw [child_inSpace bare]
  cases found : child? e "dependencyManagement" with
  | none => rfl
  | some m => simp only [Option.map_some, dependencyList_inSpace (bare_of_child bare found)]

theorem ofElement_inSpace (bare : e.Bare) :
    ofElement (e.inSpace mavenNamespace) = ofElement e := by
  simp only [ofElement, text_inSpace bare, parentReference_inSpace bare,
    propertyTable_inSpace bare, dependencyList_inSpace bare, managed_inSpace bare]

/-- A document without namespaces and the same document with every element in the Maven namespace
are read as one POM. -/
theorem ofBytes_inSpace {bytes bytes' : ByteArray} (reads : Element.ofBytes bytes = .ok e)
    (bare : e.Bare) (reads' : Element.ofBytes bytes' = .ok (e.inSpace mavenNamespace)) :
    ∃ pom, ofBytes bytes = .ok pom ∧ ofBytes bytes' = .ok pom := by
  refine ⟨ofElement e, ?_, ?_⟩
  · rw [ofBytes, reads]
    rfl
  · rw [ofBytes, reads', ← ofElement_inSpace bare]
    rfl

/-! ### A POM with a default namespace on its root -/

def bareText : String :=
  "<project><parent><groupId>g</groupId><version> 1 </version></parent><artifactId>a</artifactId>"
    ++ "<properties><v> 2 </v><w/></properties><dependencies><dependency><groupId>h</groupId>"
    ++ "<artifactId>b</artifactId><version>${v}</version></dependency></dependencies></project>"

def spacedText : String :=
  "<project xmlns=\"http://maven.apache.org/POM/4.0.0\"><parent><groupId>g</groupId>"
    ++ "<version> 1 </version></parent><artifactId>a</artifactId>"
    ++ "<properties><v> 2 </v><w/></properties><dependencies><dependency><groupId>h</groupId>"
    ++ "<artifactId>b</artifactId><version>${v}</version></dependency></dependencies></project>"

/-- An element without a namespace, attributes and text of its own. -/
def bareNode (label : String) (children : List Element) : Element :=
  .mk ⟨none, label⟩ [] "" children

/-- An element without a namespace, attributes and children. -/
def bareLeaf (label text : String) : Element := .mk ⟨none, label⟩ [] text []

def bareTree : Element :=
  bareNode "project"
    [bareNode "parent" [bareLeaf "groupId" "g", bareLeaf "version" " 1 "],
      bareLeaf "artifactId" "a",
      bareNode "properties" [bareLeaf "v" " 2 ", bareLeaf "w" ""],
      bareNode "dependencies"
        [bareNode "dependency"
          [bareLeaf "groupId" "h", bareLeaf "artifactId" "b", bareLeaf "version" "${v}"]]]

theorem bareLeaf_bare (label text : String) : (bareLeaf label text).Bare :=
  .mk rfl (List.forall_mem_nil _)

theorem bareNode_bare {label : String} {children : List Element} (inner : ∀ c ∈ children, c.Bare) :
    (bareNode label children).Bare := .mk rfl inner

theorem bareTree_bare : bareTree.Bare := by
  repeat
    first
    | exact bareLeaf_bare _ _
    | refine bareNode_bare ?_
    | refine List.forall_mem_cons.mpr ⟨?_, ?_⟩
    | exact List.forall_mem_nil _

set_option maxRecDepth 20000 in
theorem bareTree_read : Element.ofBytes bareText.toUTF8 = .ok bareTree :=
  Xml.ofBytes_read (ofList_pieces (ofList_pieces rfl rfl) rfl) (by decide)
    (by decide) rfl

set_option maxRecDepth 20000 in
theorem spacedTree_read :
    Element.ofBytes spacedText.toUTF8 = .ok (bareTree.inSpace mavenNamespace) :=
  Xml.ofBytes_read (ofList_pieces (ofList_pieces (ofList_pieces rfl rfl) rfl) rfl)
    (by decide) (by decide) rfl

/-- The two texts are read as one POM. -/
theorem spaced_alike :
    Element.ofBytes bareText.toUTF8 = .ok bareTree ∧ bareTree.Bare ∧
      Element.ofBytes spacedText.toUTF8 = .ok (bareTree.inSpace mavenNamespace) ∧
      ∃ pom, ofBytes bareText.toUTF8 = .ok pom ∧ ofBytes spacedText.toUTF8 = .ok pom :=
  ⟨bareTree_read, bareTree_bare, spacedTree_read,
    ofBytes_inSpace bareTree_read bareTree_bare spacedTree_read⟩

end Pom

end MavenImport
