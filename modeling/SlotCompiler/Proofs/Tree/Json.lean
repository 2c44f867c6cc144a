import Mathlib.Data.List.Forall2
import SlotCompiler.Proofs.Fault
import SlotCompiler.Proofs.Service.Answer

namespace SlotCompiler

namespace Json

-- Equal but for the order of members. Of members with the same name the first one counts.
inductive Same : Json → Json → Prop where
  | null : Same null null
  | bool (b : Bool) : Same (bool b) (bool b)
  | int (n : Int) : Same (int n) (int n)
  | float (x : Number.Binary64) : Same (float x) (float x)
  | str (t : Text) : Same (str t) (str t)
  | arr {items items' : List Json} (h : List.Forall₂ Same items items') :
      Same (arr items) (arr items')
  | obj {members members' : List (Text × Json)}
      (h : ∀ key, Option.Rel Same (members.lookup key) (members'.lookup key)) :
      Same (obj members) (obj members')

mutual

theorem Same.refl : ∀ j : Json, j.Same j
  | null => .null
  | bool b => .bool b
  | int n => .int n
  | float x => .float x
  | str t => .str t
  | arr items => .arr (forall₂_same_refl items)
  | obj members => .obj fun key => rel_same_refl key members

theorem forall₂_same_refl : ∀ items : List Json, List.Forall₂ Same items items
  | [] => .nil
  | j :: rest => .cons (Same.refl j) (forall₂_same_refl rest)

theorem rel_same_refl (key : Text) : ∀ members : List (Text × Json),
    Option.Rel Same (members.lookup key) (members.lookup key)
  | [] => .none
  | (k, j) :: rest => by
      rw [List.lookup_cons]
      cases key == k with
      | true => exact .some (Same.refl j)
      | false => exact rel_same_refl key rest

end

theorem lookup_eq_some_iff_mem {members : List (Text × Json)} (h : (members.map Prod.fst).Nodup)
    {key : Text} {j : Json} : members.lookup key = some j ↔ (key, j) ∈ members := by
  induction members with
  | nil => simp
  | cons m rest ih =>
      obtain ⟨k, value⟩ := m
      rw [List.map_cons, List.nodup_cons] at h
      rw [List.lookup_cons, List.mem_cons, Prod.mk.injEq]
      by_cases hkey : key = k
      · subst hkey
        have hrest : (key, j) ∉ rest := fun hmem => h.1 (List.mem_map.mpr ⟨_, hmem, rfl⟩)
        simp [hrest, eq_comm]
      · rw [beq_false_of_ne hkey]
        simp [hkey, ih h.2]

theorem Same.of_perm {members members' : List (Text × Json)} (hperm : members.Perm members')
    (h : (members.map Prod.fst).Nodup) : (Json.obj members).Same (.obj members') := by
  refine .obj fun key => ?_
  have h' := (hperm.map Prod.fst).nodup_iff.mp h
  have heq : members.lookup key = members'.lookup key := by
    apply Option.ext
    intro j
    rw [lookup_eq_some_iff_mem h, lookup_eq_some_iff_mem h', hperm.mem_iff]
  rw [heq]
  exact rel_same_refl key members'

theorem Same.exists_member {j j' value : Json} (h : j.Same j') (key : Text)
    (hvalue : j'.get? key = some value) : ∃ found, j.get? key = some found ∧ found.Same value := by
  cases h with
  | @obj members members' hmembers =>
      have hkey := hmembers key
      rw [show members'.lookup key = some value from hvalue] at hkey
      simp only [get?]
      generalize members.lookup key = found at hkey
      cases hkey with
      | some hsame => exact ⟨_, rfl, hsame⟩
  | _ => cases hvalue

theorem Same.eq_str {j : Json} {t : Text} (h : j.Same (.str t)) : j = .str t := by
  cases h
  rfl

theorem Same.eq_int {j : Json} {n : Int} (h : j.Same (.int n)) : j = .int n := by
  cases h
  rfl

end Json

theorem Atom.eq_of_same {j : Json} {a : Atom} (h : j.Same a.toJson) : j = a.toJson := by
  cases a with
  | text t => exact h.eq_str
  | int n => exact h.eq_int

theorem Atom.ofJson?_toJson (a : Atom) : ofJson? a.toJson = some a := by
  cases a <;> rfl

theorem Span.ofJson?_of_same {j : Json} {s : Span} (h : j.Same s.toJson) : ofJson? j = some s := by
  obtain ⟨line, hline, hsameLine⟩ := h.exists_member "line" rfl
  obtain ⟨column, hcolumn, hsameColumn⟩ := h.exists_member "column" rfl
  obtain ⟨length, hlength, hsameLength⟩ := h.exists_member "length" rfl
  obtain rfl := hsameLine.eq_int
  obtain rfl := hsameColumn.eq_int
  obtain rfl := hsameLength.eq_int
  simp only [ofJson?, hline, hcolumn, hlength]

theorem Span.member?_of_same {j position : Json} {s : Span}
    (hposition : j.get? "position" = some position) (h : position.Same s.toJson) :
    member? j = some s := by
  have hspan := ofJson?_of_same h
  cases h
  simp only [member?, hposition, hspan]

namespace Tree

def Member.of : Json → Member
  | .arr items => ⟨none, ofJsonList? items⟩
  | j => ⟨ofJson? j, none⟩

theorem readMembers_cons (key : Text) (j : Json) (rest : List (Text × Json)) :
    readMembers ((key, j) :: rest) = (key, .of j) :: readMembers rest := by
  cases j <;> rw [readMembers] <;> simp [Member.of]

theorem lookup_readMembers (members : List (Text × Json)) (key : Text) :
    (readMembers members).lookup key = (members.lookup key).map Member.of := by
  induction members with
  | nil => rw [readMembers]; rfl
  | cons m rest ih =>
      obtain ⟨k, j⟩ := m
      rw [readMembers_cons, List.lookup_cons, List.lookup_cons, ih]
      cases key == k <;> rfl

section

variable {members : List (Text × Json)} {written : Json}

theorem child_of_same {t : Tree} (hread : ∀ {j : Json}, j.Same t.toJson → ofJson? j = some t)
    (h : (Json.obj members).Same written) (key : Text) (ht : written.get? key = some t.toJson) :
    child (readMembers members) key = some t := by
  obtain ⟨found, hfound, hsame⟩ := h.exists_member key ht
  have hmember : (Member.of found).node = ofJson? found := by
    cases found <;> simp [Member.of, ofJson?]
  rw [child, lookup_readMembers, show members.lookup key = some found from hfound]
  exact hmember.trans (hread hsame)

theorem children_of_same {ts : List Tree}
    (hread : ∀ {items : List Json}, List.Forall₂ Json.Same items (listJson ts) →
      ofJsonList? items = some ts)
    (h : (Json.obj members).Same written) (key : Text)
    (hts : written.get? key = some (.arr (listJson ts))) :
    children (readMembers members) key = some ts := by
  obtain ⟨found, hfound, hsame⟩ := h.exists_member key hts
  cases hsame with
  | @arr items _ hitems =>
      rw [children, lookup_readMembers, show members.lookup key = some (.arr items) from hfound]
      exact hread hitems

end

theorem exists_members {t : Tree} (hne : t ≠ absent) {j : Json} (h : j.Same t.toJson) :
    ∃ members, j = .obj members ∧ (Json.obj members).get? "type" = some (.str t.typeName) := by
  have htype : t.toJson.get? "type" = some (.str t.typeName) := by
    cases t with
    | absent => exact absurd rfl hne
    | _ => rw [toJson]; rfl
  obtain ⟨found, hfound, hsame⟩ := h.exists_member _ htype
  obtain rfl := hsame.eq_str
  cases j with
  | obj members => exact ⟨members, rfl, hfound⟩
  | _ => cases hfound

-- The members that a node needs are found by their names; the nodes among them are read by the
-- induction.
mutual

theorem ofJson?_of_same : ∀ (t : Tree) {j : Json}, j.Same t.toJson → ofJson? j = some t
  | program statements, j, h => by
      obtain ⟨members, rfl, htype⟩ := exists_members (by simp) h
      rw [toJson] at h
      have hstatements := children_of_same (ofJsonList?_of_same statements) h "statements" rfl
      rw [ofJson?, build]
      simp only [htype, typeName, if_true, hstatements]
      rfl
  | binding name value, j, h => by
      obtain ⟨members, rfl, htype⟩ := exists_members (by simp) h
      rw [toJson] at h
      have hname := child_of_same (ofJson?_of_same name) h "identifier" rfl
      have hvalue := child_of_same (ofJson?_of_same value) h "expression" rfl
      rw [ofJson?, build]
      simp +decide only [htype, typeName, if_false, if_true, hname, hvalue]
      rfl
  | call callee argument, j, h => by
      obtain ⟨members, rfl, htype⟩ := exists_members (by simp) h
      rw [toJson] at h
      have hcallee := child_of_same (ofJson?_of_same callee) h "identifier" rfl
      have hargument := child_of_same (ofJson?_of_same argument) h "argument" rfl
      rw [ofJson?, build]
      simp +decide only [htype, typeName, if_false, if_true, hcallee, hargument]
      rfl
  | identifier name span, j, h => by
      obtain ⟨members, rfl, htype⟩ := exists_members (by simp) h
      rw [toJson] at h
      obtain ⟨given, hgiven, hname⟩ := h.exists_member "name" rfl
      obtain ⟨position, hposition, hspan⟩ := h.exists_member "position" rfl
      obtain rfl := Atom.eq_of_same hname
      rw [ofJson?, build]
      simp +decide only [htype, typeName, if_false, if_true, hgiven, Option.bind_some,
        Atom.ofJson?_toJson, Span.member?_of_same hposition hspan]
      rfl
  | literal value type span, j, h => by
      obtain ⟨members, rfl, htype⟩ := exists_members (by simp) h
      rw [toJson] at h
      obtain ⟨given, hgiven, hvalue⟩ := h.exists_member "value" rfl
      obtain ⟨typ, htyp, hsame⟩ := h.exists_member "typ" rfl
      obtain ⟨position, hposition, hspan⟩ := h.exists_member "position" rfl
      obtain rfl := hsame.eq_str
      rw [ofJson?, build]
      simp +decide only [htype, typeName, if_false, if_true, hgiven, htyp,
        Span.member?_of_same hposition hspan]
      cases value with
      | none =>
          cases hvalue
          rfl
      | some a =>
          obtain rfl := Atom.eq_of_same hvalue
          cases a <;> rfl
  | bare, j, h => by
      obtain ⟨members, rfl, htype⟩ := exists_members (by simp) h
      rw [ofJson?, build]
      simp +decide only [htype, typeName, if_false]
  | absent, j, h => by
      rw [toJson] at h
      cases h
      rw [ofJson?]

theorem ofJsonList?_of_same : ∀ (ts : List Tree) {items : List Json},
    List.Forall₂ Json.Same items (listJson ts) → ofJsonList? items = some ts
  | [], items, h => by
      rw [listJson] at h
      cases h
      rw [ofJsonList?]
  | t :: ts, items, h => by
      rw [listJson] at h
      cases h with
      | cons hfirst hrest =>
          rw [ofJsonList?, ofJson?_of_same t hfirst, ofJsonList?_of_same ts hrest]

end

theorem eq_of_same {t t' : Tree} (h : t.toJson.Same t'.toJson) : t = t' := by
  have hread := ofJson?_of_same t (.refl _)
  rw [ofJson?_of_same t' h] at hread
  exact (Option.some.inj hread).symm

end Tree

namespace Service

open Assembly (generate)

-- The answer has the tree of a program, in a form from which the same is generated.
def Response.Serves (response : Response) (p : Program) : Prop :=
  ∃ ast, response.field "ast" = some ast ∧
    ∀ j, j.Same ast → ∃ rebuilt, Tree.ofJson? j = some rebuilt ∧
      (generate rebuilt).1 = (generate p.tree).1

theorem Response.serves {response : Response} {p : Program}
    (h : response.field "ast" = some p.tree.toJson) : response.Serves p :=
  ⟨_, h, fun _ hj => ⟨p.tree, Tree.ofJson?_of_same p.tree hj, rfl⟩⟩

-- A source that parses has a text or a diagnostic, and the tree is part of either answer.
theorem serves_compileNamed {code : Text} {p : Program}
    (hp : (Token.tokenize code).bind Program.ofTokens = .ok p) {room : Nat} {name : Json}
    (hname : name.Showable room) : (compileNamed room code name).Serves p := by
  rcases runCompile_cases code with ⟨asm, hrun⟩ | ⟨d, hrun⟩ | ⟨fault, hrun, hne⟩
  · exact Response.serves ((succeeds_compileNamed hname hrun).2.ast_eq p hp)
  · exact Response.serves ((reports_compileNamed hname hrun).2.ast_eq p hp)
  · rcases runCompile_fault_cases hrun with ⟨d, hd⟩ | ⟨htokens, -⟩
    · exact absurd hd (hne d)
    · rw [htokens] at hp
      cases hp

end Service

open Service in
-- Nothing of a tree is lost in its JSON: the tree is read back from it, in whatever order the
-- members stand, and trees with the same members are one tree. From the tree in the answer comes
-- the assembly of the source, or its fault.
theorem tree_json_faithful :
    (∀ t : Tree, Tree.ofJson? t.toJson = some t) ∧
    (∀ (t : Tree) (j : Json), j.Same t.toJson → Tree.ofJson? j = some t) ∧
    (∀ t t' : Tree, t.toJson.Same t'.toJson → t = t') ∧
    ∀ (code : Text) (p : Program), (Token.tokenize code).bind Program.ofTokens = .ok p →
      ∀ room : Nat,
        (∀ name : Json, name.Showable room → (compileNamed room code name).Serves p) ∧
        ∀ (settings : Settings) (limit : Int) (data : Json) (path : Option Json),
          settings.maxSourceLength = .int limit → Submits limit data code path →
          (shownName settings path).Showable room →
          ∃ response, compileData room settings data = .ok response ∧ response.Serves p := by
  refine ⟨fun t => Tree.ofJson?_of_same t (.refl _), fun t _ => Tree.ofJson?_of_same t,
    fun _ _ => Tree.eq_of_same, fun code p hp room => ⟨fun _ => serves_compileNamed hp, ?_⟩⟩
  intro settings limit data path hlimit hsubmits hname
  exact ⟨_, hsubmits.compileData_eq hlimit, serves_compileNamed hp hname⟩

open Service in
-- A literal with its members in another order, a node beside no node, and a source that parses but
-- does not compile.
theorem tree_json_faithful_reordered :
    let value : Tree := .literal none "x" ⟨-1, 0, 2⟩
    let t : Tree := .call .absent (.program [.bare, value, .absent])
    let data : Json := .obj [("code", .str "exit(y);")]
    Tree.ofJson? t.toJson = some t ∧
    Tree.ofJson? (.obj [("position", Span.toJson ⟨-1, 0, 2⟩), ("typ", .str "x"), ("value", .null),
      ("type", .str "Literal")]) = some value ∧
    ¬Tree.absent.toJson.Same Tree.bare.toJson ∧
    ∃ response ast rebuilt, compileData 0 {} data = .ok response ∧
      response.field "ast" = some ast ∧ Tree.ofJson? ast = some rebuilt ∧
      (Assembly.generate rebuilt).1 =
        .error (.diagnostic ⟨.notFound, ⟨0, 5, 1⟩, ["y"], Nat.le_refl 1⟩) := by
  intro value t data
  obtain ⟨hread, hsame, heq, hserved⟩ := tree_json_faithful
  refine ⟨hread t, hsame value _ ?_, fun h => Tree.noConfusion (heq _ _ h), ?_⟩
  · rw [Tree.toJson]
    exact .of_perm (List.reverse_perm _).symm (by decide)
  · have hp : (Token.tokenize "exit(y);").bind Program.ofTokens = .ok
        [.call ⟨.text "exit", ⟨0, 0, 4⟩⟩ (.name ⟨.text "y", ⟨0, 5, 1⟩⟩)] := by
      decide +kernel
    have hsubmits : Submits 65536 data "exit(y);" none := ⟨rfl, rfl, by decide⟩
    have hname : (shownName {} none).Showable 0 := by
      rw [← Json.checkShown_eq_ok_iff]
      rfl
    obtain ⟨response, hanswer, ast, hast, hrebuilt⟩ := (hserved _ _ hp 0).2 {} 65536 data none
      rfl hsubmits hname
    obtain ⟨rebuilt, htree, hgenerate⟩ := hrebuilt ast (.refl ast)
    refine ⟨response, ast, rebuilt, hanswer, hast, htree, ?_⟩
    rw [hgenerate]
    decide +kernel

end SlotCompiler
