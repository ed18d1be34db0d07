import TemplateCalc.Proofs.Path.Basic

/-!
Tables of symbols, and the fields that were put there.

A container in a table does not point to what it holds: it is found again by its kind, address and
size. If no two containers agree in these, every container that was put there is found with what was
put into it, also where a copy of its symbol is a member or an element of another one.
-/

set_option autoImplicit false

namespace TemplateCalc

inductive Field where
  | scalar (symbol : Symbol)
  | struct (address size : Int64) (members : List (String × Field))
  | array (address size : Int64) (elements : List Field)
  | blob (address size : Int64) (bytes : List UInt8)

namespace Field

def symbol : Field → Symbol
  | scalar symbol => symbol
  | struct address size _ => ⟨.struct, size, address, ""⟩
  | array address size _ => ⟨.array, size, address, ""⟩
  | blob address size _ => ⟨.blob, size, address, ""⟩

def symbols (members : List (String × Field)) : List (String × Symbol) :=
  members.map fun (name, field) => (name, field.symbol)

def children : Field → Children
  | scalar _ => .elements []
  | struct _ _ members => .members (symbols members)
  | array _ _ elements => .elements (elements.map symbol)
  | blob _ _ bytes => .bytes bytes

def ofMembers (address : Int64) (members : List (String × Field)) : Field :=
  struct address (SymbolTable.structSymbol address (symbols members)).size members

def ofElements (address : Int64) (elements : List Field) : Field :=
  array address (SymbolTable.arraySymbol address (elements.map symbol)).size elements

def ofBytes (address : Int64) (bytes : List UInt8) : Field :=
  blob address (SymbolTable.blobSymbol address bytes).size bytes

def takes : Field → Hop → Bool
  | struct .., .member _ | array .., .element _ | blob .., .element _ => true
  | _, _ => false

/-- The fields inside of a field, by their names or places. Of two members with one name the first one
counts. A constant too large for an integer is read as a negative one, and so beyond every end. -/
def child? : Field → Hop → Option Field
  | struct _ _ members, .member name => members.lookup name
  | array _ _ elements, .element index =>
    if index.value < 0 then none else elements[index.value.toInt.toNat]?
  | blob address _ bytes, .element index =>
    if index.value < 0 then none
    else
      let i := index.value.toInt.toNat
      bytes[i]?.map fun byte =>
        scalar ⟨.int (Int64.ofNat byte.toNat), 1, address + Int64.ofNat i, ""⟩
  | _, _ => none

def reach (field : Field) (hops : List Hop) : Option Field :=
  hops.foldlM child? field

def fault : Field → SymbolFault
  | struct .. => .noMember
  | blob .. => .blobIndex
  | _ => .arrayIndex

end Field

/-- Fields that can be put into a container or under a name: scalars, and containers that were made
before. -/
def Field.Known (made : List Field) (field : Field) : Prop :=
  (∃ symbol, field = .scalar symbol) ∨ field ∈ made

/-- The table is built by definitions of names and containers. Beside it stand the fields that the
names got, the last one first, and the containers that were made, in their order. -/
inductive SymbolTable.Built : SymbolTable → List (String × Field) → List Field → Prop where
  | empty (data : Array UInt8) : Built { data } [] []
  | define {t : SymbolTable} {names : List (String × Field)} {made : List Field}
      (built : Built t names made) (name : String) {field : Field} (known : field.Known made) :
      Built (t.define name field.symbol) ((name, field) :: names) made
  | struct {t : SymbolTable} {names : List (String × Field)} {made : List Field}
      (built : Built t names made) (name : String) (address : Int64)
      {members : List (String × Field)} (known : ∀ m ∈ members, m.2.Known made) :
      Built
        (t.defineContainer name (structSymbol address (Field.symbols members))
          (.members (Field.symbols members)))
        ((name, .ofMembers address members) :: names) (made ++ [.ofMembers address members])
  | array {t : SymbolTable} {names : List (String × Field)} {made : List Field}
      (built : Built t names made) (name : String) (address : Int64) {elements : List Field}
      (known : ∀ field ∈ elements, field.Known made) :
      Built
        (t.defineContainer name (arraySymbol address (elements.map Field.symbol))
          (.elements (elements.map Field.symbol)))
        ((name, .ofElements address elements) :: names) (made ++ [.ofElements address elements])
  | blob {t : SymbolTable} {names : List (String × Field)} {made : List Field}
      (built : Built t names made) (name : String) (address : Int64) (bytes : List UInt8) :
      Built (t.defineContainer name (blobSymbol address bytes) (.bytes bytes))
        ((name, .ofBytes address bytes) :: names) (made ++ [.ofBytes address bytes])

def SymbolTable.Distinct (t : SymbolTable) : Prop :=
  t.containers.Pairwise fun (c, _) (d, _) =>
    ¬(sameKind c.value d.value = true ∧ c.address = d.address ∧ c.size = d.size)

namespace Field

variable {made : List Field} {field found : Field} {hop : Hop}

theorem Known.append (known : field.Known made) (others : List Field) :
    field.Known (made ++ others) := by
  rcases known with isScalar | member
  · exact .inl isScalar
  · exact .inr (List.mem_append_left others member)

def Closed (made : List Field) : Field → Prop
  | scalar _ | blob .. => True
  | struct _ _ members => ∀ m ∈ members, m.2.Known made
  | array _ _ elements => ∀ field ∈ elements, field.Known made

theorem Closed.append (closed : field.Closed made) (others : List Field) :
    field.Closed (made ++ others) := by
  cases field with
  | scalar | blob => trivial
  | struct => exact fun m member => (closed m member).append others
  | array => exact fun m member => (closed m member).append others

theorem known_of_lookup {members : List (String × Field)} {name : String}
    (known : ∀ m ∈ members, m.2.Known made) (isFirst : members.lookup name = some found) :
    found.Known made := by
  induction members with
  | nil => cases isFirst
  | cons m members ih =>
      obtain ⟨n, f⟩ := m
      rw [List.lookup_cons] at isFirst
      split at isFirst
      · cases isFirst
        exact known (n, found) List.mem_cons_self
      · exact ih (fun m member => known m (List.mem_cons_of_mem _ member)) isFirst

theorem Closed.child (closed : field.Closed made) (isChild : field.child? hop = some found) :
    found.Known made := by
  unfold child? at isChild
  split at isChild
  · exact known_of_lookup closed isChild
  · split at isChild
    · cases isChild
    · exact closed found (List.mem_of_getElem? isChild)
  · split at isChild
    · cases isChild
    · obtain ⟨byte, _, isScalar⟩ := Option.map_eq_some_iff.mp isChild
      exact .inl ⟨_, isScalar.symm⟩
  · cases isChild

/-- A field with something inside of it goes on with its own steps. -/
theorem takes_of_child? (isChild : field.child? hop = some found) : field.takes hop = true := by
  cases field <;> cases hop <;> first | rfl | cases isChild

theorem leadsOn_of_takes (takes : field.takes hop = true) :
    Session.leadsOn field.symbol.value hop.mark = true := by
  cases field <;> cases hop <;> first | rfl | cases takes

end Field

namespace SymbolTable

variable {t : SymbolTable} {names : List (String × Field)} {made : List Field} {field : Field}

/-- The table keeps for each container its symbol and what is inside of it, and for each name the symbol
of its field. -/
theorem Built.contents (built : Built t names made) :
    t.top = Field.symbols names ∧
      t.containers = made.map fun field => (field.symbol, field.children) := by
  induction built with
  | empty data => exact ⟨rfl, rfl⟩
  | define built name known ih =>
      obtain ⟨top, containers⟩ := ih
      exact ⟨by rw [SymbolTable.define, top]; rfl, containers⟩
  | struct built name address known ih | array built name address known ih
  | blob built name address bytes ih =>
      obtain ⟨top, containers⟩ := ih
      simp only [defineContainer, SymbolTable.define, top, containers, List.map_append]
      exact ⟨rfl, rfl⟩

theorem closed_append {others : Field} (closed : ∀ field ∈ made, field.Closed made)
    (own : others.Closed made) :
    ∀ field ∈ made ++ [others], field.Closed (made ++ [others]) := by
  intro field member
  rcases List.mem_append.mp member with before | last
  · exact (closed field before).append _
  · rw [List.mem_singleton.mp last]
    exact own.append _

theorem Built.closed (built : Built t names made) : ∀ field ∈ made, field.Closed made := by
  induction built with
  | empty data => exact fun _ impossible => by cases impossible
  | define built name known ih => exact ih
  | struct built name address known ih => exact closed_append ih known
  | array built name address known ih => exact closed_append ih known
  | blob built name address bytes ih => exact closed_append ih trivial

theorem Built.known (built : Built t names made) : ∀ m ∈ names, m.2.Known made := by
  induction built with
  | empty data => exact fun _ impossible => by cases impossible
  | define built name known ih => exact List.forall_mem_cons.mpr ⟨known, ih⟩
  | struct built name address known ih | array built name address known ih
  | blob built name address bytes ih =>
      refine List.forall_mem_cons.mpr ⟨.inr ?_, fun m member => (ih m member).append _⟩
      exact List.mem_append_right _ (List.mem_singleton.mpr rfl)

theorem Built.isContainer (built : Built t names made) :
    ∀ field ∈ made, sameKind field.symbol.value field.symbol.value = true := by
  induction built with
  | empty data => exact fun _ impossible => by cases impossible
  | define built name known ih => exact ih
  | struct built name address known ih | array built name address known ih
  | blob built name address bytes ih =>
      intro field member
      rcases List.mem_append.mp member with before | last
      · exact ih field before
      · rw [List.mem_singleton.mp last]
        rfl

theorem lookup_symbols (members : List (String × Field)) (name : String) :
    (Field.symbols members).lookup name = (members.lookup name).map Field.symbol := by
  induction members with
  | nil => rfl
  | cons m members ih =>
      obtain ⟨n, f⟩ := m
      rw [Field.symbols, List.map_cons, List.lookup_cons, List.lookup_cons]
      split
      · rfl
      · exact ih

/-- Among containers that differ in kind, address or size each is the first one like itself. -/
theorem find?_own {containers : List (Symbol × Children)} {own : Symbol × Children}
    (distinct : containers.Pairwise fun (c, _) (d, _) =>
      ¬(sameKind c.value d.value = true ∧ c.address = d.address ∧ c.size = d.size))
    (inside : own ∈ containers) (isContainer : sameKind own.1.value own.1.value = true) :
    containers.find? (fun (c, _) =>
        sameKind c.value own.1.value && c.address == own.1.address && c.size == own.1.size) =
      some own := by
  induction containers with
  | nil => cases inside
  | cons first others ih =>
      obtain ⟨apart, distinct⟩ := List.pairwise_cons.mp distinct
      rcases List.mem_cons.mp inside with rfl | isOther
      · rw [List.find?_cons_of_pos (by simp [isContainer])]
      · rw [List.find?_cons_of_neg]
        · exact ih distinct isOther
        · have other := apart _ isOther
          simpa [and_assoc] using other

/-- A container is found again by its symbol. -/
theorem Built.children? (built : Built t names made) (distinct : t.Distinct)
    (member : field ∈ made) : t.children? field.symbol = some field.children := by
  have inside : (field.symbol, field.children) ∈ t.containers := by
    rw [built.contents.2]
    exact List.mem_map_of_mem member
  rw [SymbolTable.children?, find?_own distinct inside (built.isContainer field member)]
  rfl

/-- The table answers for a known field with the symbol of the field inside of it. -/
theorem Built.next? (built : Built t names made) (distinct : t.Distinct)
    (known : field.Known made) {hop : Hop} (takes : field.takes hop = true) :
    hop.next? t.host field.symbol = (field.child? hop).map Field.symbol := by
  -- nothing is inside of a scalar, so the field is a container that was made
  have member : field ∈ made := by
    rcases known with ⟨symbol, rfl⟩ | member
    · cases hop <;> cases takes
    · exact member
  have found := built.children? distinct member
  cases field with
  | scalar => cases hop <;> cases takes
  | struct address size members =>
      cases hop with
      | element => cases takes
      | member name =>
          change t.resolve name (some (Field.struct address size members).symbol) 0 = _
          rw [resolve, found]
          exact lookup_symbols members name
  | array address size elements =>
      cases hop with
      | member => cases takes
      | element index =>
          rw [Hop.next?, Field.child?]
          split
          · rfl
          · change t.resolve "" (some (Field.array address size elements).symbol) _ = _
            rw [resolve, found]
            exact List.getElem?_map ..
  | blob address size bytes =>
      cases hop with
      | member => cases takes
      | element index =>
          rw [Hop.next?, Field.child?]
          split
          · rfl
          · change t.resolve "" (some (Field.blob address size bytes).symbol) _ = _
            rw [resolve, found]
            simp only [Field.children, Option.bind_eq_bind, Option.bind_some]
            cases bytes[index.value.toInt.toNat]? <;> rfl

/-- Steps through the fields lead through their symbols. -/
theorem Built.leads (built : Built t names made) (distinct : t.Distinct) {hops : List Hop}
    {last : Field} (known : field.Known made) (reached : field.reach hops = some last) :
    Session.Leads t.host field.symbol hops last.symbol ∧ last.Known made := by
  induction hops generalizing field with
  | nil =>
      cases reached
      exact ⟨.here, known⟩
  | cons hop hops ih =>
      rw [Field.reach, List.foldlM_cons] at reached
      cases isChild : field.child? hop with
      | none =>
          rw [isChild] at reached
          cases reached
      | some child =>
          rw [isChild] at reached
          have takes := Field.takes_of_child? isChild
          have childKnown : child.Known made := by
            rcases known with ⟨symbol, rfl⟩ | member
            · cases hop <;> cases takes
            · exact (built.closed field member).child isChild
          obtain ⟨leads, lastKnown⟩ := ih childKnown reached
          have next := built.next? distinct known takes
          rw [isChild] at next
          exact ⟨.onward (Field.leadsOn_of_takes takes) next leads, lastKnown⟩

/-- The table knows the names of its fields. -/
theorem Built.resolve (built : Built t names made) {name : String}
    (isTop : names.lookup name = some field) :
    t.host.resolve name none 0 = some field.symbol := by
  change t.top.lookup name = _
  rw [built.contents.1, lookup_symbols, isTop]
  rfl

end SymbolTable

end TemplateCalc
