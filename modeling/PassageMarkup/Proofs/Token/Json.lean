import Mathlib.Data.List.Nodup
import PassageMarkup.Proofs.Json.Compact
import PassageMarkup.Proofs.Scan.Errors
import PassageMarkup.Token.Json

/-!
# Trees from their JSON

The object of a tree leaves out empty inner texts, missing fields and faults.  No field has the key
of another member, so a missing member is seen to be missing; and a fault is told by the kind, the
text and the message of its token.
-/

namespace PassageMarkup

namespace Kind

theorem nodup_camelName : (all.map camelName).Nodup := by
  decide +kernel

theorem camelName_injective {left right : Kind} (same : left.camelName = right.camelName) :
    left = right :=
  List.inj_on_of_nodup_map nodup_camelName (mem_all left) (mem_all right) same

end Kind

namespace Fields

/-- The keys of all fields, each with its value if the field is set. -/
def entries (fields : Fields) : List (Text × Option Json) :=
  [("name".toList, fields.name.map .string),
    ("value".toList, fields.value.map .number),
    ("colour".toList, fields.colour.map .string),
    ("operator".toList, fields.operator.map .string),
    ("depth".toList, fields.depth.map .natural),
    ("message".toList, fields.message.map .string),
    ("passage".toList, fields.passage.map .string),
    ("align".toList, fields.align.map .string),
    ("column".toList, fields.column.map .string),
    ("width".toList, fields.width.map .natural)]

def keys : List Text :=
  ["name".toList, "value".toList, "colour".toList, "operator".toList, "depth".toList,
    "message".toList, "passage".toList, "align".toList, "column".toList, "width".toList]

/-- The member of a field that is set. -/
def member (entry : Text × Option Json) : List (Text × Json) :=
  (entry.2.map fun value => (entry.1, value)).toList

theorem toMembers_eq (fields : Fields) : fields.toMembers = fields.entries.flatMap member := by
  simp only [toMembers, entries, member, List.flatMap_cons, List.flatMap_nil, List.append_assoc,
    List.append_nil]

theorem key_mem_of_mem_member {entry : Text × Option Json} {key : Text} {value : Json}
    (inMember : (key, value) ∈ member entry) : key = entry.1 := by
  obtain ⟨_, _, same⟩ := Option.map_eq_some_iff.mp (Option.mem_toList.mp inMember)
  exact (Prod.mk.inj same).1.symm

theorem entries_unique {left right : List (Text × Option Json)}
    (keys : left.map Prod.fst = right.map Prod.fst) (nodup : (left.map Prod.fst).Nodup)
    (same : left.flatMap member = right.flatMap member) : left = right := by
  induction left generalizing right with
  | nil => exact (List.map_eq_nil_iff.mp keys.symm).symm
  | cons entry rest induction =>
      obtain ⟨other, others, rfl⟩ := List.exists_cons_of_ne_nil (show right ≠ [] by
        rintro rfl
        contradiction)
      obtain ⟨key, value⟩ := entry
      obtain ⟨otherKey, otherValue⟩ := other
      obtain ⟨rfl, restKeys⟩ := List.cons.inj keys
      obtain ⟨fresh, restNodup⟩ := List.nodup_cons.mp nodup
      have absent {value : Json} {entries : List (Text × Option Json)}
          (sameKeys : rest.map Prod.fst = entries.map Prod.fst) :
          (key, value) ∉ entries.flatMap member := by
        intro inEntries
        obtain ⟨entry, inList, inMember⟩ := List.mem_flatMap.mp inEntries
        apply fresh
        rw [sameKeys, key_mem_of_mem_member inMember]
        exact List.mem_map.mpr ⟨entry, inList, rfl⟩
      rw [List.flatMap_cons, List.flatMap_cons] at same
      cases value with
      | none =>
          cases otherValue with
          | none => rw [induction restKeys restNodup same]
          | some otherValue =>
              have inRest : (key, otherValue) ∈ rest.flatMap member := by
                change rest.flatMap member = _ at same
                rw [same]
                exact List.mem_cons_self
              exact absurd inRest (absent rfl)
      | some value =>
          cases otherValue with
          | none =>
              have inRest : (key, value) ∈ others.flatMap member := by
                change _ = others.flatMap member at same
                rw [← same]
                exact List.mem_cons_self
              exact absurd inRest (absent restKeys)
          | some otherValue =>
              obtain ⟨heads, tails⟩ := List.cons.inj same
              rw [(Prod.mk.inj heads).2, induction restKeys restNodup tails]

theorem toMembers_injective {left right : Fields} (same : left.toMembers = right.toMembers) :
    left = right := by
  rw [toMembers_eq, toMembers_eq] at same
  have entries : left.entries = right.entries :=
    entries_unique rfl (show Fields.keys.Nodup by decide) same
  have string : Function.Injective (Option.map Json.string) :=
    Option.map_injective fun _ _ => Json.string.inj
  have natural : Function.Injective (Option.map Json.natural) :=
    Option.map_injective fun _ _ => Json.natural.inj
  have number : Function.Injective (Option.map Json.number) :=
    Option.map_injective fun _ _ => Json.number.inj
  simp only [Fields.entries, List.cons.injEq, Prod.mk.injEq, true_and, and_true, string.eq_iff,
    natural.eq_iff, number.eq_iff] at entries
  cases left
  cases right
  rw [mk.injEq]
  exact entries

end Fields

namespace Fault

theorem exists_message_eq (fault : Fault) {text wording : Text}
    (statement : fault.statement = text ++ wording) :
    ∃ rest, fault.message = text ++ (wording ++ rest) := by
  unfold message
  rw [statement]
  split
  · exact ⟨[], by rw [List.append_nil]⟩
  · exact ⟨_, by rw [List.append_assoc, List.append_assoc]⟩

theorem wordings_apart (left right : Text) :
    " is a macro call written in a different story format's syntax".toList ++ left ≠
      " is not a valid operator".toList ++ right := by
  intro same
  have beginnings := congrArg (List.take 5) same
  rw [List.take_append_of_le_length (by decide +kernel),
    List.take_append_of_le_length (by decide +kernel)] at beginnings
  exact absurd beginnings (by decide +kernel)

theorem message_ne (text : Text) :
    (legacyMacroCall text).message ≠ (incorrectOperator text).message := by
  intro same
  obtain ⟨rest, message⟩ := exists_message_eq (legacyMacroCall text) rfl
  obtain ⟨otherRest, otherMessage⟩ := exists_message_eq (incorrectOperator text) rfl
  have wordings := message.symm.trans (same.trans otherMessage)
  exact wordings_apart _ _ (List.append_cancel_left wordings)

/-- The faults that are found in one text are told apart by their messages. -/
theorem eq_of_message_eq {text : Text} {left right : Fault}
    (leftCause : left = .legacyMacroCall text ∨ left = .incorrectOperator text)
    (rightCause : right = .legacyMacroCall text ∨ right = .incorrectOperator text)
    (same : left.message = right.message) : left = right := by
  rcases leftCause with rfl | rfl
  · rcases rightCause with rfl | rfl
    · rfl
    · exact absurd same (message_ne text)
  · rcases rightCause with rfl | rfl
    · exact absurd same.symm (message_ne text)
    · rfl

end Fault

namespace Token

variable {left right : Token} {place otherPlace : Text}

/-- A fault is told by the kind, the text and the message of its token. -/
theorem Reported.fault_eq_of (reported : left.Reported place)
    (otherReported : right.Reported otherPlace) (kinds : left.kind = right.kind)
    (texts : left.text = right.text) (messages : left.fields.message = right.fields.message) :
    left.fault = right.fault := by
  by_cases isError : left.kind = .error
  · obtain ⟨_, fault, faulty⟩ := reported.error isError
    obtain ⟨_, otherFault, otherFaulty⟩ := otherReported.error (kinds.symm.trans isError)
    rw [faulty.message_eq, otherFaulty.message_eq, Option.some.injEq] at messages
    have otherCause := otherFaulty.cause
    rw [← texts] at otherCause
    rw [faulty.fault_eq, otherFaulty.fault_eq,
      Fault.eq_of_message_eq faulty.cause otherCause messages]
  · rw [(reported.other isError).1, (otherReported.other (kinds ▸ isError)).1]

/-- The value of a token is a number that JSON writes. -/
def HasWrittenValue (token : Token) : Prop :=
  ∀ value ∈ token.fields.value, value.IsWritten

theorem toJsonList_eq (tokens : List Token) : toJsonList tokens = tokens.map toJson := by
  induction tokens with
  | nil => rfl
  | cons token rest induction => rw [toJsonList, induction, List.map_cons]

def members (token : Token) : List (Text × Json) :=
  [("type".toList, .string token.kind.camelName.toList),
      ("start".toList, .natural token.start),
      ("end".toList, .natural token.stop),
      ("text".toList, .string token.text)] ++
    (if token.inner.isEmpty then [] else [("innerText".toList, .string token.inner)]) ++
    [("children".toList, .array (token.children.map toJson)),
      ("place".toList, .string token.place)] ++
    token.fields.toMembers

theorem toJson_eq (token : Token) : token.toJson = .object token.members := by
  cases token
  rw [toJson, members, toJsonList_eq]

theorem isWritten_of_mem_toMembers {fields : Fields} {member : Text × Json}
    (valued : ∀ value ∈ fields.value, value.IsWritten) (inFields : member ∈ fields.toMembers) :
    member.2.IsWritten := by
  rw [Fields.toMembers_eq] at inFields
  obtain ⟨entry, inEntries, inMember⟩ := List.mem_flatMap.mp inFields
  obtain ⟨value, entry_eq, rfl⟩ := Option.map_eq_some_iff.mp (Option.mem_toList.mp inMember)
  have string {field : Option Text} (present : field.map Json.string = some value) :
      value.IsWritten := by
    obtain ⟨text, _, rfl⟩ := Option.map_eq_some_iff.mp present
    exact .string text
  have natural {field : Option Nat} (present : field.map Json.natural = some value) :
      value.IsWritten := by
    obtain ⟨number, _, rfl⟩ := Option.map_eq_some_iff.mp present
    exact .natural number
  have number (present : fields.value.map Json.number = some value) : value.IsWritten := by
    obtain ⟨number, isValue, rfl⟩ := Option.map_eq_some_iff.mp present
    exact .number (valued number isValue)
  simp only [Fields.entries, List.mem_cons, List.not_mem_nil, or_false] at inEntries
  rcases inEntries with rfl | rfl | rfl | rfl | rfl | rfl | rfl | rfl | rfl | rfl
  all_goals first
    | exact string entry_eq
    | exact natural entry_eq
    | exact number entry_eq

theorem toJson_isWritten {token : Token} (valued : token.Everywhere HasWrittenValue) :
    token.toJson.IsWritten := by
  induction token using children_induction with
  | node token induction =>
      rw [toJson_eq]
      apply Json.IsWritten.object
      intro member inMembers
      rw [members, List.mem_append, List.mem_append, List.mem_append] at inMembers
      rcases inMembers with ((first | inner) | last) | field
      · simp only [List.mem_cons, List.not_mem_nil, or_false] at first
        rcases first with rfl | rfl | rfl | rfl
        · exact .string _
        · exact .natural _
        · exact .natural _
        · exact .string _
      · split at inner
        · contradiction
        · rw [List.mem_singleton.mp inner]
          exact .string _
      · simp only [List.mem_cons, List.not_mem_nil, or_false] at last
        rcases last with rfl | rfl
        · apply Json.IsWritten.array
          intro element inElements
          obtain ⟨child, member, rfl⟩ := List.mem_map.mp inElements
          exact induction child member (valued.child member)
        · exact .string _
      · exact isWritten_of_mem_toMembers valued.here field

/-- Whether there is an inner text is seen from the key that follows the text. -/
theorem inner_unique {rest otherRest : List (Text × Json)} {value otherValue : Json}
    (same : (if left.inner.isEmpty then [] else [("innerText".toList, Json.string left.inner)]) ++
        ("children".toList, value) :: rest =
      (if right.inner.isEmpty then [] else [("innerText".toList, Json.string right.inner)]) ++
        ("children".toList, otherValue) :: otherRest) :
    left.inner = right.inner ∧ value = otherValue ∧ rest = otherRest := by
  have apart : "innerText".toList ≠ "children".toList := by decide
  split at same
  case isTrue leftEmpty =>
    split at same
    case isTrue rightEmpty =>
      obtain ⟨heads, rests⟩ := List.cons.inj same
      rw [List.isEmpty_iff.mp leftEmpty, List.isEmpty_iff.mp rightEmpty]
      exact ⟨rfl, (Prod.mk.inj heads).2, rests⟩
    case isFalse => exact absurd (Prod.mk.inj (List.cons.inj same).1).1.symm apart
  case isFalse =>
    split at same
    case isTrue => exact absurd (Prod.mk.inj (List.cons.inj same).1).1 apart
    case isFalse =>
      obtain ⟨inners, tails⟩ := List.cons.inj same
      obtain ⟨heads, rests⟩ := List.cons.inj tails
      exact ⟨Json.string.inj (Prod.mk.inj inners).2, (Prod.mk.inj heads).2, rests⟩

/-- What is written of a token itself. -/
structure SameMembers (left right : Token) : Prop where
  kind : left.kind = right.kind
  start : left.start = right.start
  stop : left.stop = right.stop
  text : left.text = right.text
  inner : left.inner = right.inner
  children : left.children.map toJson = right.children.map toJson
  place : left.place = right.place
  fields : left.fields = right.fields

theorem sameMembers_of_members_eq (same : left.members = right.members) :
    left.SameMembers right := by
  simp only [members, List.cons_append, List.nil_append, List.append_assoc, List.cons.injEq,
    Prod.mk.injEq, true_and, Json.string.injEq, Json.natural.injEq] at same
  obtain ⟨kinds, starts, stops, texts, tails⟩ := same
  obtain ⟨inners, children, rests⟩ := inner_unique tails
  obtain ⟨places, fields⟩ := List.cons.inj rests
  constructor
  · exact Kind.camelName_injective (String.toList_injective kinds)
  · exact starts
  · exact stops
  · exact texts
  · exact inners
  · exact Json.array.inj children
  · exact Json.string.inj (Prod.mk.inj places).2
  · exact Fields.toMembers_injective fields

theorem map_unique {α β : Type} {form : α → β} {items others : List α}
    (unique : ∀ item ∈ items, ∀ other ∈ others, form item = form other → item = other)
    (same : items.map form = others.map form) : items = others := by
  induction items generalizing others with
  | nil => exact (List.map_eq_nil_iff.mp same.symm).symm
  | cons item items induction =>
      obtain ⟨other, others, rfl, _, _⟩ := List.map_eq_cons_iff.mp same.symm
      obtain ⟨heads, tails⟩ := List.cons.inj same
      rw [unique item List.mem_cons_self other List.mem_cons_self heads, induction _ tails]
      intro item member other otherMember
      exact unique item (.tail _ member) other (.tail _ otherMember)

/-- A tree whose faults are told is known from its JSON. -/
theorem toJson_injective (reported : left.Everywhere (Reported place))
    (otherReported : right.Everywhere (Reported otherPlace)) (same : left.toJson = right.toJson) :
    left = right := by
  induction left using children_induction generalizing right with
  | node left induction =>
      rw [toJson_eq, toJson_eq, Json.object.injEq] at same
      have parts := sameMembers_of_members_eq same
      have faults : left.fault = right.fault :=
        reported.here.fault_eq_of otherReported.here parts.kind parts.text (by rw [parts.fields])
      have children : left.children = right.children := by
        refine map_unique ?_ parts.children
        intro child member other otherMember
        exact induction child member (reported.child member) (otherReported.child otherMember)
      cases left
      cases right
      rw [mk.injEq]
      exact ⟨parts.kind, parts.start, parts.stop, parts.text, parts.inner, children, parts.place,
        parts.fields, faults⟩

end Token

end PassageMarkup
