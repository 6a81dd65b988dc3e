import DocstringTags.Outline.Basic
import Mathlib.Data.List.Basic

/-! The statements of a file by their addresses. An address counts the statements before the one in
question, in the body of the file first and then in each body on the way inwards, so its order is that
of the text. Main statements: `mem_bodySites_iff`, by which the sites in a body are found one after
another, and `File.walk_preorder`.
-/

set_option autoImplicit false

namespace DocstringTags.Outline

/-- A statement at its address, with the kind of the innermost body around it and the statement just
before it in that body. -/
structure Site where
  address : List Nat
  scope : Scope
  previous : Option Statement
  statement : Statement

namespace Site

def own (scope : Scope) (before : List Statement) (statement : Statement) : Site :=
  ⟨[before.length], scope, before.getLast?, statement⟩

/-- The site as it is seen from a body around its own, where it lies in statement number `n`. -/
def inside (n : Nat) (site : Site) : Site := { site with address := n :: site.address }

def node? (site : Site) : Option Node :=
  match site.statement with
  | .expression value => some (.expression value site.scope site.previous)
  | .assignment assignment => some (.assignment assignment)
  | .function name body => some (.function name body)
  | .classDef name body => some (.classDef name body)
  | .other => none

@[simp] theorem address_own (scope : Scope) (before : List Statement) (statement : Statement) :
    (own scope before statement).address = [before.length] := rfl

@[simp] theorem address_inside (n : Nat) (site : Site) :
    (site.inside n).address = n :: site.address := rfl

end Site

def Statement.scopedBody? : Statement → Option (Scope × List Statement)
  | .function _ body => some (.function, body)
  | .classDef _ body => some (.classBody, body)
  | .expression _ | .assignment _ | .other => none

/-- The site is that of a statement of the body, or a site in the body of such a statement. -/
inductive IsSite : Scope → List Statement → Site → Prop where
  | own (scope : Scope) (before : List Statement) (statement : Statement)
    (after : List Statement) :
    IsSite scope (before ++ statement :: after) (.own scope before statement)
  | inner {kind : Scope} {body : List Statement} {site : Site} (scope : Scope)
    (before : List Statement) (holder : Statement) (after : List Statement)
    (hbody : holder.scopedBody? = some (kind, body)) (hsite : IsSite kind body site) :
    IsSite scope (before ++ holder :: after) (site.inside before.length)

mutual

def Statement.innerSites : Statement → List Site
  | .function _ body => bodySites .function [] body
  | .classDef _ body => bodySites .classBody [] body
  | .expression _ | .assignment _ | .other => []

def bodySites (scope : Scope) (before : List Statement) : List Statement → List Site
  | [] => []
  | statement :: rest =>
    .own scope before statement :: statement.innerSites.map (.inside before.length) ++
      bodySites scope (before ++ [statement]) rest

end

section
variable {scope : Scope} {before after body : List Statement} {statement : Statement} {site : Site}

theorem mem_innerSites_iff :
    site ∈ statement.innerSites ↔
      ∃ kind body, statement.scopedBody? = some (kind, body) ∧ site ∈ bodySites kind [] body := by
  cases statement <;> simp [Statement.innerSites, Statement.scopedBody?]

theorem bodySites_append (scope : Scope) (before body after : List Statement) :
    bodySites scope before (body ++ after) =
      bodySites scope before body ++ bodySites scope (before ++ body) after := by
  induction body generalizing before with
  | nil => simp [bodySites]
  | cons statement body ih => simp [bodySites, ih]

theorem IsSite.mem_bodySites (h : IsSite scope body site) : site ∈ bodySites scope [] body := by
  induction h with
  | own scope before statement after => simp [bodySites_append, bodySites]
  | inner scope before holder after hbody _ ih =>
    have hinner := mem_innerSites_iff.2 ⟨_, _, hbody, ih⟩
    rw [bodySites_append, bodySites]
    simp only [List.nil_append, List.mem_append, List.mem_cons, List.mem_map]
    exact .inr (.inl (.inr ⟨_, hinner, rfl⟩))

mutual

theorem IsSite.of_mem_innerSites : (statement : Statement) → ∀ site ∈ statement.innerSites,
    ∃ kind body, statement.scopedBody? = some (kind, body) ∧ IsSite kind body site
  | .function _ body, site, h => ⟨.function, body, rfl, of_mem_bodySites .function [] body site h⟩
  | .classDef _ body, site, h => ⟨.classBody, body, rfl, of_mem_bodySites .classBody [] body site h⟩
  | .expression _, _, h | .assignment _, _, h | .other, _, h => nomatch h

theorem IsSite.of_mem_bodySites (scope : Scope) (before : List Statement) :
    (body : List Statement) → ∀ site ∈ bodySites scope before body,
      IsSite scope (before ++ body) site
  | [], _, h => nomatch h
  | statement :: rest, site, h => by
    rw [bodySites, List.mem_append, List.mem_cons, List.mem_map] at h
    obtain (rfl | ⟨inner, hinner, rfl⟩) | hrest := h
    · exact .own scope before statement rest
    · obtain ⟨kind, body, hbody, hsite⟩ := of_mem_innerSites statement inner hinner
      exact .inner scope before statement rest hbody hsite
    · simpa using of_mem_bodySites scope (before ++ [statement]) rest site hrest

end

theorem mem_bodySites_iff : site ∈ bodySites scope [] body ↔ IsSite scope body site :=
  ⟨IsSite.of_mem_bodySites scope [] body site, IsSite.mem_bodySites⟩

/-! ## The order of addresses -/

theorem address_of_mem_bodySites (h : site ∈ bodySites scope before body) :
    ∃ n rest, site.address = n :: rest ∧ before.length ≤ n := by
  induction body generalizing before with
  | nil => simp [bodySites] at h
  | cons statement body ih =>
    rw [bodySites, List.mem_append, List.mem_cons, List.mem_map] at h
    obtain (rfl | ⟨inner, -, rfl⟩) | hrest := h
    · exact ⟨_, _, rfl, Nat.le_refl _⟩
    · exact ⟨_, _, rfl, Nat.le_refl _⟩
    · obtain ⟨n, rest, haddress, hle⟩ := ih hrest
      rw [List.length_append] at hle
      exact ⟨n, rest, haddress, by omega⟩

/-- A statement comes before all that is in its body. -/
theorem pairwise_own_inside (scope : Scope) (before : List Statement) (statement : Statement)
    {sites : List Site} (hne : ∀ site ∈ sites, site.address ≠ [])
    (h : sites.Pairwise fun site later => site.address < later.address) :
    (Site.own scope before statement :: sites.map (.inside before.length)).Pairwise
      fun site later => site.address < later.address := by
  refine List.pairwise_cons.2 ⟨fun later hlater => ?_, List.pairwise_map.2 (h.imp fun hlt => ?_)⟩
  · obtain ⟨inner, hinner, rfl⟩ := List.mem_map.1 hlater
    obtain ⟨n, rest, haddress⟩ := List.exists_cons_of_ne_nil (hne inner hinner)
    simp [haddress]
  · simpa [List.cons_lt_cons_iff] using hlt

theorem address_ne_nil_of_mem_innerSites (h : site ∈ statement.innerSites) :
    site.address ≠ [] := by
  obtain ⟨kind, body, -, hsite⟩ := mem_innerSites_iff.1 h
  obtain ⟨n, rest, haddress, -⟩ := address_of_mem_bodySites hsite
  simp [haddress]

mutual

theorem Statement.pairwise_innerSites : (statement : Statement) →
    statement.innerSites.Pairwise fun site later => site.address < later.address
  | .function _ body => pairwise_bodySites .function [] body
  | .classDef _ body => pairwise_bodySites .classBody [] body
  | .expression _ | .assignment _ | .other => .nil

theorem pairwise_bodySites (scope : Scope) (before : List Statement) : (body : List Statement) →
    (bodySites scope before body).Pairwise fun site later => site.address < later.address
  | [] => .nil
  | statement :: rest => by
    have hinner := pairwise_own_inside scope before statement
      (fun _ => address_ne_nil_of_mem_innerSites) statement.pairwise_innerSites
    have hrest := pairwise_bodySites scope (before ++ [statement]) rest
    refine List.pairwise_append.2 ⟨hinner, hrest, fun site hsite later hlater => ?_⟩
    obtain ⟨n, tail, haddress, hle⟩ := address_of_mem_bodySites hlater
    have hlt : before.length < n := by
      rw [List.length_append] at hle
      exact hle
    rw [List.mem_cons, List.mem_map] at hsite
    obtain rfl | ⟨inner, -, rfl⟩ := hsite <;> simp [haddress, List.cons_lt_cons_iff, hlt]

end

/-! ## The nodes of a walk -/

mutual

theorem Statement.nodes_eq (scope : Scope) (before : List Statement) : (statement : Statement) →
    statement.nodes scope before.getLast? =
      (Site.own scope before statement :: statement.innerSites).filterMap Site.node?
  | .expression _ => rfl
  | .assignment _ => rfl
  | .function name body => congrArg (Node.function name body :: ·) (bodyNodes_eq .function [] body)
  | .classDef name body => congrArg (Node.classDef name body :: ·) (bodyNodes_eq .classBody [] body)
  | .other => rfl

theorem bodyNodes_eq (scope : Scope) (before : List Statement) : (body : List Statement) →
    bodyNodes scope before.getLast? body = (bodySites scope before body).filterMap Site.node?
  | [] => rfl
  | statement :: rest => by
    have hrest := bodyNodes_eq scope (before ++ [statement]) rest
    rw [List.getLast?_concat] at hrest
    have hinside : ∀ n, Site.node? ∘ Site.inside n = Site.node? := fun _ => rfl
    rw [bodyNodes, bodySites, List.filterMap_append, ← hrest, statement.nodes_eq scope before,
      List.filterMap_cons, List.filterMap_cons, List.filterMap_map, hinside]

end

end

/-- Addresses are compared number by number: a statement comes before those in its body, and these come
before the next statement. -/
theorem File.walk_preorder (file : File) :
    ∃ sites : List Site, file.walk = .file file :: sites.filterMap Site.node? ∧
      (∀ site, site ∈ sites ↔ IsSite .file file.body site) ∧
      sites.Pairwise fun site later => site.address < later.address :=
  ⟨bodySites .file [] file.body,
    congrArg (Node.file file :: ·) (bodyNodes_eq .file [] file.body),
    fun _ => mem_bodySites_iff, pairwise_bodySites .file [] file.body⟩

end DocstringTags.Outline
