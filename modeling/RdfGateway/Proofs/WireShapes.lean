import RdfGateway.Proofs.JsonText
import RdfGateway.Wire.Update

/-!
# How deep values are nested, and how their shapes are read

Every reader of the wire format takes the number of arrays and objects that may still be nested.
`Wire.Restores` says of a value that its reader undoes its writer wherever there is room for the
nesting of what is written (`Json.depth`). It is carried from the items of a list to the list
(`restores_list`), and from the parts of an object to the object: `present` is the object whose
parts may be absent, and looking its names up gives the parts back, the absent ones as absent
(`parts?_present`).
-/

namespace RdfGateway

/-! ## Nesting -/

namespace Json

mutual

/-- How deep arrays and objects are nested in a value. -/
def depth : Json → Nat
  | .null | .bool _ | .number _ | .string _ => 0
  | .array items => depthAll items + 1
  | .object members => depthMembers members + 1

def depthAll : List Json → Nat
  | [] => 0
  | item :: rest => max (depth item) (depthAll rest)

def depthMembers : List (Option String × Json) → Nat
  | [] => 0
  | (_, value) :: rest => max (depth value) (depthMembers rest)

end

theorem depth_array_le_iff {items : List Json} {limit : Nat} :
    (Json.array items).depth ≤ limit + 1 ↔ ∀ item ∈ items, item.depth ≤ limit := by
  rw [depth, Nat.add_le_add_iff_right]
  induction items with
  | nil => simp [depthAll]
  | cons item rest ih => rw [depthAll, Nat.max_le, ih, List.forall_mem_cons]

theorem depth_fields_le_iff {members : List (String × Json)} {limit : Nat} :
    (fields members).depth ≤ limit + 1 ↔ ∀ member ∈ members, member.2.depth ≤ limit := by
  rw [fields, depth, Nat.add_le_add_iff_right]
  induction members with
  | nil => simp [depthMembers]
  | cons member rest ih => rw [List.map_cons, depthMembers, Nat.max_le, ih, List.forall_mem_cons]

theorem exists_of_depth_array_le {items : List Json} {limit : Nat}
    (h : (Json.array items).depth ≤ limit) :
    ∃ inner, limit = inner + 1 ∧ ∀ item ∈ items, item.depth ≤ inner := by
  cases limit with
  | zero => cases h
  | succ inner => exact ⟨inner, rfl, depth_array_le_iff.mp h⟩

theorem exists_of_depth_fields_le {members : List (String × Json)} {limit : Nat}
    (h : (fields members).depth ≤ limit) :
    ∃ inner, limit = inner + 1 ∧ ∀ member ∈ members, member.2.depth ≤ inner := by
  cases limit with
  | zero => cases h
  | succ inner => exact ⟨inner, rfl, depth_fields_le_iff.mp h⟩

mutual

/-- A worded value is readable where there is room for its nesting. -/
theorem isReadable_of_isWorded : (json : Json) → json.isWorded = true → (limit : Nat) →
    json.depth ≤ limit → isReadable limit json = true
  | .null, _, _, _ => by unfold isReadable; rfl
  | .bool _, _, _, _ => by unfold isReadable; rfl
  | .number _, h, _, _ => by cases h
  | .string text, h, _, _ => by
    unfold isReadable
    exact h
  | .array items, h, limit, hlimit => by
    rw [depth] at hlimit
    cases limit with
    | zero => cases hlimit
    | succ inner => exact areReadable_of_areWorded items h inner (Nat.le_of_succ_le_succ hlimit)
  | .object members, h, limit, hlimit => by
    rw [depth] at hlimit
    cases limit with
    | zero => cases hlimit
    | succ inner =>
      exact membersReadable_of_membersWorded members h inner (Nat.le_of_succ_le_succ hlimit)

theorem areReadable_of_areWorded : (items : List Json) → areWorded items = true →
    (limit : Nat) → depthAll items ≤ limit → areReadable limit items = true
  | [], _, _, _ => by unfold areReadable; rfl
  | item :: rest, h, limit, hlimit => by
    rw [depthAll, Nat.max_le] at hlimit
    rw [areWorded, Bool.and_eq_true] at h
    rw [areReadable, isReadable_of_isWorded item h.1 limit hlimit.1,
      areReadable_of_areWorded rest h.2 limit hlimit.2]
    rfl

theorem membersReadable_of_membersWorded : (members : List (Option String × Json)) →
    membersWorded members = true → (limit : Nat) → depthMembers members ≤ limit →
      membersReadable limit members = true
  | [], _, _, _ => by unfold membersReadable; rfl
  | (key, value) :: rest, h, limit, hlimit => by
    rw [depthMembers, Nat.max_le] at hlimit
    rw [membersWorded, Bool.and_eq_true, Bool.and_eq_true] at h
    rw [membersReadable, h.1.1, isReadable_of_isWorded value h.1.2 limit hlimit.1,
      membersReadable_of_membersWorded rest h.2 limit hlimit.2]
    rfl

end

theorem isWorded_array {items : List Json} (h : ∀ item ∈ items, item.isWorded = true) :
    (Json.array items).isWorded = true := by
  rw [isWorded]
  induction items with
  | nil => rfl
  | cons item rest ih =>
    rw [List.forall_mem_cons] at h
    rw [areWorded, h.1, ih h.2]
    rfl

theorem isWorded_fields {members : List (String × Json)}
    (h : ∀ member ∈ members, member.2.isWorded = true) : (fields members).isWorded = true := by
  rw [fields, isWorded]
  induction members with
  | nil => rfl
  | cons member rest ih =>
    rw [List.forall_mem_cons] at h
    rw [List.map_cons, membersWorded, h.1, ih h.2]
    rfl

end Json

/-! ## Shapes -/

namespace Wire

variable {α : Type}

/-- What is written of the item is read as the item wherever there is room for its nesting. -/
def Restores (write : α → Json) (read? : Nat → Json → Option α) (item : α) : Prop :=
  ∀ limit, (write item).depth ≤ limit → read? limit (write item) = some item

theorem restores_text (text : String) : Restores Json.text (fun _ => Json.asText?) text :=
  fun _ _ => rfl

theorem mapM_map {β γ : Type} {write : α → β} {read? : β → Option γ} {result : α → γ}
    {items : List α} (h : ∀ item ∈ items, read? (write item) = some (result item)) :
    (items.map write).mapM read? = some (items.map result) := by
  induction items with
  | nil => rfl
  | cons item rest ih =>
    rw [List.forall_mem_cons] at h
    rw [List.map_cons, List.mapM_cons, h.1, ih h.2]
    rfl

variable {write : α → Json} {read? : Nat → Json → Option α} {items : List α} {option : Option α}

theorem restores_list (h : ∀ item ∈ items, Restores write read? item) :
    Restores (fun items => .array (items.map write)) (list? read?) items := by
  intro limit hlimit
  obtain ⟨inner, rfl, hinner⟩ := Json.exists_of_depth_array_le hlimit
  rw [List.forall_mem_map] at hinner
  have hread : ∀ item ∈ items, read? inner (write item) = some (id item) :=
    fun item hitem => h item hitem inner (hinner item hitem)
  exact (mapM_map hread).trans (congrArg some (List.map_id items))

theorem keyed?_fields (members : List (String × Json)) :
    keyed? (members.map fun (key, value) => (some key, value)) = some members := by
  have hread : keyed? (members.map fun (key, value) => (some key, value)) =
      some (members.map id) := mapM_map fun _ _ => rfl
  rwa [List.map_id] at hread

theorem tagged?_tagged {tagName contentName : String} (h : tagName ≠ contentName) (tag : String)
    (depth : Nat) (content : Json) :
    tagged? tagName contentName depth (tagged tagName tag contentName content) =
      some (tag, some content) := by
  have hkeyed := keyed?_fields [(tagName, .text tag), (contentName, content)]
  simp only [tagged?, tagged, Json.fields]
  rw [hkeyed]
  simp [tag?, Json.text, h]

theorem exists_of_depth_tagged_le {tagName tag contentName : String} {content : Json} {limit : Nat}
    (h : (tagged tagName tag contentName content).depth ≤ limit) :
    ∃ inner, limit = inner + 1 ∧ content.depth ≤ inner := by
  obtain ⟨inner, hlimit, hinner⟩ := Json.exists_of_depth_fields_le h
  exact ⟨inner, hlimit, hinner (contentName, content) (by simp)⟩

/-! ### Parts -/

/-- The members of an object with these names, less the ones that are absent. -/
def present (names : List String) (parts : List (Option Json)) : List (String × Json) :=
  (names.zip parts).flatMap fun (name, part) => (part.map fun value => (name, value)).toList

theorem mem_present {names : List String} {parts : List (Option Json)} {name : String}
    {value : Json} :
    (name, value) ∈ present names parts ↔ (name, some value) ∈ names.zip parts := by
  unfold present
  rw [List.mem_flatMap]
  constructor
  · rintro ⟨⟨key, part⟩, hpart, hvalue⟩
    obtain ⟨value, rfl, rfl, rfl⟩ : ∃ found, part = some found ∧ key = name ∧ found = value := by
      simpa using hvalue
    exact hpart
  · intro hpart
    exact ⟨_, hpart, by simp⟩

theorem present_cons (name : String) (names : List String) (part : Option Json)
    (parts : List (Option Json)) :
    present (name :: names) (part :: parts) =
      (part.map fun value => (name, value)).toList ++ present names parts := rfl

section
variable {names : List String} {parts : List (Option Json)}

theorem filter_present_of_not_mem {name : String} (h : name ∉ names) :
    (present names parts).filter (·.1 = name) = [] := by
  rw [List.filter_eq_nil_iff]
  rintro ⟨key, value⟩ hmember
  have hkey : key ∈ names := (List.of_mem_zip (mem_present.mp hmember)).1
  rw [decide_eq_true_eq]
  rintro rfl
  exact h hkey

theorem filter_present {name : String} {part : Option Json} (hnodup : names.Nodup)
    (h : (name, part) ∈ names.zip parts) :
    (present names parts).filter (·.1 = name) = (part.map fun value => (name, value)).toList := by
  induction names generalizing parts with
  | nil => cases h
  | cons first names ih =>
    cases parts with
    | nil => cases h
    | cons value parts =>
      rw [List.nodup_cons] at hnodup
      rw [present_cons, List.filter_append]
      rcases List.mem_cons.mp h with heq | hrest
      · cases heq
        rw [filter_present_of_not_mem hnodup.1]
        cases part <;> simp
      · have hne : first ≠ name := by
          rintro rfl
          exact hnodup.1 (List.of_mem_zip hrest).1
        rw [ih hnodup.2 hrest]
        cases value <;> simp [hne]

theorem member?_present {name : String} {part : Option Json} (hnodup : names.Nodup)
    (h : (name, part) ∈ names.zip parts) : member? (present names parts) name = some part := by
  rw [member?, filter_present hnodup h]
  cases part <;> rfl

theorem mapM_member?_present (hnodup : names.Nodup) (hlength : names.length = parts.length) :
    names.mapM (member? (present names parts)) = some parts := by
  have hparts : ((names.zip parts).map Prod.fst).mapM (member? (present names parts)) =
      some ((names.zip parts).map Prod.snd) :=
    mapM_map fun _ h => member?_present hnodup h
  rwa [List.map_fst_zip (Nat.le_of_eq hlength),
    List.map_snd_zip (Nat.le_of_eq hlength.symm)] at hparts

/-- The parts of an object are found, the absent ones as absent. -/
theorem parts?_present (hnodup : names.Nodup) (hlength : names.length = parts.length) :
    parts? names (.fields (present names parts)) = some parts := by
  simp only [parts?, Json.fields, keyed?_fields]
  exact mapM_member?_present hnodup hlength

theorem objectParts?_present (hnodup : names.Nodup) (hlength : names.length = parts.length) :
    objectParts? names (.fields (present names parts)) = some parts := by
  simp only [objectParts?, Json.fields, keyed?_fields]
  exact mapM_member?_present hnodup hlength

theorem exists_of_depth_present_le {limit : Nat} (hlength : names.length = parts.length)
    (h : (Json.fields (present names parts)).depth ≤ limit) :
    ∃ inner, limit = inner + 1 ∧ ∀ part ∈ parts, ∀ value ∈ part, value.depth ≤ inner := by
  obtain ⟨inner, hlimit, hinner⟩ := Json.exists_of_depth_fields_le h
  refine ⟨inner, hlimit, fun part hpart value hvalue => ?_⟩
  rw [← List.map_snd_zip (Nat.le_of_eq hlength.symm)] at hpart
  obtain ⟨⟨name, part⟩, hmem, rfl⟩ := List.mem_map.mp hpart
  cases hvalue
  exact hinner (name, value) (mem_present.mpr hmem)

end

theorem ifPresent_eq (name : String) :
    ifPresent name write option = ((option.map write).map fun value => (name, value)).toList := by
  rw [Option.map_map]
  rfl

/-- The array of a list, unless it is empty. -/
def arrayPart (write : α → Json) (items : List α) : Option Json :=
  if items.isEmpty then none else some (.array (items.map write))

theorem unlessEmpty_eq (name : String) :
    unlessEmpty name write items =
      ((arrayPart write items).map fun value => (name, value)).toList := by
  cases items <;> rfl

/-- An option comes back from a part that is not written when it is absent. -/
theorem withDefault?_nullable {limit : Nat}
    (hlimit : ∀ value ∈ option.map write, value.depth ≤ limit) (hnull : ∀ item, write item ≠ .null)
    (h : ∀ item ∈ option, Restores write read? item) :
    withDefault? (nullable? (read? limit)) none (option.map write) = some option := by
  cases option with
  | none => rfl
  | some item =>
    have hread : read? limit (write item) = some item := h item rfl limit (hlimit _ rfl)
    show nullable? (read? limit) (write item) = some (some item)
    unfold nullable?
    split
    · rename_i hwritten
      exact absurd hwritten (hnull item)
    · rw [hread]
      rfl

/-- A list comes back from a part that is not written when it is empty. -/
theorem withDefault?_list {limit : Nat}
    (hlimit : ∀ value ∈ arrayPart write items, value.depth ≤ limit)
    (h : ∀ item ∈ items, Restores write read? item) :
    withDefault? (list? read? limit) [] (arrayPart write items) = some items := by
  cases items with
  | nil => rfl
  | cons item rest => exact restores_list h limit (hlimit _ rfl)

/-! ### Worded values -/

theorem isWorded_tagged {tagName tag contentName : String} {content : Json}
    (h : content.isWorded = true) : (tagged tagName tag contentName content).isWorded = true := by
  refine Json.isWorded_fields ?_
  rw [List.forall_mem_cons, List.forall_mem_singleton]
  exact ⟨rfl, h⟩

theorem isWorded_text (text : String) : (Json.text text).isWorded = true := rfl

theorem isWorded_present {names : List String} {parts : List (Option Json)}
    (h : ∀ part ∈ parts, ∀ value ∈ part, value.isWorded = true) :
    (Json.fields (present names parts)).isWorded = true := by
  refine Json.isWorded_fields fun member hmember => ?_
  have hpart : some member.2 ∈ parts := (List.of_mem_zip (mem_present.mp hmember)).2
  exact h _ hpart _ rfl

theorem isWorded_list {α : Type} {write : α → Json} (items : List α)
    (h : ∀ item, (write item).isWorded = true) :
    (Json.array (items.map write)).isWorded = true :=
  Json.isWorded_array (List.forall_mem_map.mpr fun item _ => h item)

section
variable {α : Type} {write : α → Json} (h : ∀ item, (write item).isWorded = true)
include h

theorem isWorded_of_mem_map {option : Option α} :
    ∀ value ∈ option.map write, value.isWorded = true := by
  intro value hvalue
  obtain ⟨item, -, rfl⟩ := Option.map_eq_some_iff.mp hvalue
  exact h item

theorem isWorded_of_mem_arrayPart {items : List α} :
    ∀ value ∈ arrayPart write items, value.isWorded = true := by
  intro value hvalue
  cases items with
  | nil => cases hvalue
  | cons item rest =>
    cases hvalue
    exact isWorded_list (item :: rest) h

end

end Wire

end RdfGateway
