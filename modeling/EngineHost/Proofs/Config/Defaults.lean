import EngineHost.Proofs.Config.RoundTrip
import EngineHost.Proofs.Document.Omission

/-!
# Configurations with fields left out

Most fields of a configuration can be left out, at any depth and in any combination, and each of
them then has its default, whatever else is there. The defaults of structures and the defaults of
their fields are written down apart from each other and have to agree for this: a structure that is
left out is the same as one of which every field is left out. Three fields have no defaults, the
address of an account and the two words of a storage slot.

## Main definitions

- `ConfigFile.schema` — the structures of a configuration and their fields
- `ConfigFile.defaulted` — a configuration with defaults in selected places
- `ConfigFile.Required` — the places of the fields that have no default

## Main statements

- `ConfigFile.conforms` — the reader of configurations follows their schema
- `omissions_are_defaults` — what is read when fields are left out
-/

namespace EngineHost

open Reader

/-! ## Fields -/

def EngineConfig.layout : List (String × Bool × Schema) := [
  ("name", false, .plain),
  ("revision", false, .plain),
  ("options", false, .plain)]

def ExecutionConfig.layout : List (String × Bool × Schema) := [
  ("address", false, .plain),
  ("sender", false, .plain),
  ("value", false, .plain),
  ("kind", false, .plain),
  ("gas", false, .plain),
  ("input", false, .plain),
  ("code", false, .plain)]

def RuntimeConfig.layout : List (String × Bool × Schema) := [
  ("engine", false, .record EngineConfig.layout),
  ("execution", false, .record ExecutionConfig.layout)]

def StorageEntry.layout : List (String × Bool × Schema) := [
  ("key", true, .plain),
  ("value", true, .plain)]

def AccountEntry.layout : List (String × Bool × Schema) := [
  ("address", true, .plain),
  ("balance", false, .plain),
  ("code", false, .plain),
  ("storage", false, .list (.record StorageEntry.layout))]

def ConfigFile.layout : List (String × Bool × Schema) := [
  ("runtime", false, .record RuntimeConfig.layout),
  ("accounts", false, .list (.record AccountEntry.layout))]

/-- The structures of a configuration. The options of an engine are none, whatever their names. -/
def ConfigFile.schema : Schema := .record ConfigFile.layout

/-! ## Defaults in selected places

A slot has no defaults in it, so that there is nothing to say for its structure. -/

def EngineConfig.defaulted (sel : Selection) (c : EngineConfig) : EngineConfig where
  name := if sel [.field "name"] then defaultEngineName else c.name
  revision := if sel [.field "revision"] then defaultRevision else c.revision
  options := if sel [.field "options"] then .empty else c.options

def ExecutionConfig.defaulted (sel : Selection) (c : ExecutionConfig) : ExecutionConfig where
  address := if sel [.field "address"] then defaultDestination else c.address
  sender := if sel [.field "sender"] then Fixed.zero 20 else c.sender
  value := if sel [.field "value"] then Fixed.zero 32 else c.value
  kind := if sel [.field "kind"] then .call else c.kind
  gas := if sel [.field "gas"] then defaultGas else c.gas
  input := if sel [.field "input"] then "" else c.input
  code := if sel [.field "code"] then "" else c.code

def RuntimeConfig.defaulted (sel : Selection) (c : RuntimeConfig) : RuntimeConfig where
  engine := if sel [.field "engine"] then {} else c.engine.defaulted (sel.under (.field "engine"))
  execution :=
    if sel [.field "execution"] then {} else c.execution.defaulted (sel.under (.field "execution"))

def AccountEntry.defaulted (sel : Selection) (a : AccountEntry) : AccountEntry where
  address := a.address
  balance := if sel [.field "balance"] then Fixed.zero 32 else a.balance
  code := if sel [.field "code"] then "" else a.code
  storage := if sel [.field "storage"] then [] else a.storage

/-- The configuration with defaults in selected places. -/
def ConfigFile.defaulted (sel : Selection) (c : ConfigFile) : ConfigFile where
  runtime :=
    if sel [.field "runtime"] then {} else c.runtime.defaulted (sel.under (.field "runtime"))
  accounts :=
    if sel [.field "accounts"] then []
    else c.accounts.mapIdx fun i a => a.defaulted ((sel.under (.field "accounts")).under (.item i))

/-! ## Empty records

The values of type defaults, `{}`, are put together from the defaults of structures, and what is
read from an empty record is put together from the defaults of fields. -/

theorem EngineConfig.read_empty (format : Format) : shape.read format (.record []) = .ok {} := rfl

theorem ExecutionConfig.read_empty (format : Format) :
    shape.read format (.record []) = .ok {} := rfl

theorem RuntimeConfig.read_empty (format : Format) : shape.read format (.record []) = .ok {} := rfl

theorem ConfigFile.read_empty (format : Format) : shape.read format (.record []) = .ok {} := rfl

theorem EngineConfig.defaulted_default (sel : Selection) : defaulted sel {} = {} := by
  simp [defaulted]

theorem ExecutionConfig.defaulted_default (sel : Selection) : defaulted sel {} = {} := by
  simp [defaulted]

theorem RuntimeConfig.defaulted_default (sel : Selection) : defaulted sel {} = {} := by
  simp [defaulted, EngineConfig.defaulted_default, ExecutionConfig.defaulted_default]

theorem ConfigFile.defaulted_default (sel : Selection) : defaulted sel {} = {} := by
  simp [defaulted, RuntimeConfig.defaulted_default]

/-! ## Every structure follows its fields -/

theorem EngineConfig.conforms : shape.Conforms layout defaulted where
  orderless := orderless
  distinct := by decide
  members := by
    refine .cons ?_ (.cons ?_ (.cons ?_ .nil))
    all_goals
      refine Field.conforms_optional (conforms_plain _) ?_ ?_ <;>
        (intro sel a x h; simp [defaulted, h])
  start := defaulted_default
  omitted := by
    intro k inner f hmem
    simp [layout] at hmem

theorem ExecutionConfig.conforms : shape.Conforms layout defaulted where
  orderless := orderless
  distinct := by decide
  members := by
    refine .cons ?_ (.cons ?_ (.cons ?_ (.cons ?_ (.cons ?_ (.cons ?_ (.cons ?_ .nil))))))
    all_goals
      refine Field.conforms_optional (conforms_plain _) ?_ ?_ <;>
        (intro sel a x h; simp [defaulted, h])
  start := defaulted_default
  omitted := by
    intro k inner f hmem
    simp [layout] at hmem

theorem RuntimeConfig.conforms : shape.Conforms layout defaulted where
  orderless := orderless
  distinct := by decide
  members := by
    refine .cons ?_ (.cons ?_ .nil)
    · refine Field.conforms_optional EngineConfig.conforms.read ?_ ?_ <;>
        (intro sel a x h; simp [defaulted, h])
    · refine Field.conforms_optional ExecutionConfig.conforms.read ?_ ?_ <;>
        (intro sel a x h; simp [defaulted, h])
  start := defaulted_default
  omitted := by
    intro k inner f hmem hfield _ format
    simp only [layout, List.mem_cons, List.not_mem_nil, Prod.mk.injEq, or_false] at hmem
    rcases hmem with ⟨rfl, -, -⟩ | ⟨rfl, -, -⟩
    · cases hfield
      exact (Field.sets_optional _).exists_update (EngineConfig.read_empty format) rfl
    · cases hfield
      exact (Field.sets_optional _).exists_update (ExecutionConfig.read_empty format) rfl

theorem StorageEntry.conforms : shape.Conforms layout fun _ e => e where
  orderless := orderless
  distinct := by decide
  members := by
    refine .cons ?_ (.cons ?_ .nil)
    all_goals exact Field.conforms_mandatory (conforms_plain _) fun _ _ _ => rfl
  start := fun _ => rfl
  omitted := by
    intro k inner f hmem
    simp [layout] at hmem

theorem AccountEntry.conforms : shape.Conforms layout defaulted where
  orderless := orderless
  distinct := by decide
  members := by
    have hslots : ∀ slots : List StorageEntry, slots.mapIdx (fun _ e => e) = slots :=
      fun slots => List.ext_getElem (by simp) (by simp)
    refine .cons ?_ (.cons ?_ (.cons ?_ (.cons ?_ .nil)))
    · exact Field.conforms_mandatory (conforms_plain _) fun _ _ _ => rfl
    · refine Field.conforms_optional (conforms_plain _) ?_ ?_ <;>
        (intro sel a x h; simp [defaulted, h])
    · refine Field.conforms_optional (conforms_plain _) ?_ ?_ <;>
        (intro sel a x h; simp [defaulted, h])
    · refine Field.conforms_optional StorageEntry.conforms.read.list ?_ ?_ <;>
        (intro sel a x h; simp [defaulted, h, hslots])
  start := by
    intro sel
    show defaulted sel { address := Fixed.zero 20 } = { address := Fixed.zero 20 }
    simp [defaulted]
  omitted := by
    intro k inner f hmem
    simp [layout] at hmem

theorem ConfigFile.conforms : shape.Conforms layout defaulted where
  orderless := orderless
  distinct := by decide
  members := by
    refine .cons ?_ (.cons ?_ .nil)
    · refine Field.conforms_optional RuntimeConfig.conforms.read ?_ ?_ <;>
        (intro sel a x h; simp [defaulted, h])
    · refine Field.conforms_optional AccountEntry.conforms.read.list ?_ ?_ <;>
        (intro sel a x h; simp [defaulted, h])
  start := defaulted_default
  omitted := by
    intro k inner f hmem hfield _ format
    simp only [layout, List.mem_cons, List.not_mem_nil, Prod.mk.injEq, or_false] at hmem
    rcases hmem with ⟨rfl, -, -⟩ | ⟨rfl, -, h⟩
    · cases hfield
      exact (Field.sets_optional _).exists_update (RuntimeConfig.read_empty format) rfl
    · cases h

/-! ## Fields that are required -/

/-- The places of the fields that cannot be left out of a configuration, with their names. -/
inductive ConfigFile.Required : Place → String → Prop where
  | address (i : Nat) : Required [.field "accounts", .item i, .field "address"] "address"
  | key (i j : Nat) :
      Required [.field "accounts", .item i, .field "storage", .item j, .field "key"] "key"
  | value (i j : Nat) :
      Required [.field "accounts", .item i, .field "storage", .item j, .field "value"] "value"

theorem Schema.not_requires_of_plain {fields : List (String × Bool × Schema)}
    (h : ∀ x ∈ fields, x.2 = (false, .plain)) {p : Place} {name : String} :
    ¬ (record fields).Requires p name := by
  rw [requires_record_iff]
  rintro (⟨-, s, hmem⟩ | ⟨x, hmem, q, -, inner⟩)
  · cases h _ hmem
  · rw [h x hmem] at inner
    exact not_requires_plain inner

theorem EngineConfig.not_requires {p : Place} {name : String} :
    ¬ (Schema.record layout).Requires p name :=
  Schema.not_requires_of_plain (by simp [layout])

theorem ExecutionConfig.not_requires {p : Place} {name : String} :
    ¬ (Schema.record layout).Requires p name :=
  Schema.not_requires_of_plain (by simp [layout])

theorem RuntimeConfig.not_requires {p : Place} {name : String} :
    ¬ (Schema.record layout).Requires p name := by
  rw [Schema.requires_record_iff]
  simp [layout, EngineConfig.not_requires, ExecutionConfig.not_requires]

theorem StorageEntry.requires_iff {p : Place} {name : String} :
    (Schema.record layout).Requires p name ↔
      p = [.field name] ∧ (name = "key" ∨ name = "value") := by
  rw [Schema.requires_record_iff]
  simp [layout, Schema.not_requires_plain, exists_or]

theorem AccountEntry.requires_iff {p : Place} {name : String} :
    (Schema.record layout).Requires p name ↔
      p = [.field name] ∧ name = "address" ∨
        ∃ j, p = [.field "storage", .item j, .field name] ∧ (name = "key" ∨ name = "value") := by
  rw [Schema.requires_record_iff]
  simp [layout, Schema.requires_list_iff, Schema.not_requires_plain, StorageEntry.requires_iff]

theorem ConfigFile.requires_iff {p : Place} {name : String} :
    schema.Requires p name ↔ Required p name := by
  have haccounts : schema.Requires p name ↔
      ∃ i q, p = .field "accounts" :: .item i :: q ∧
        (Schema.record AccountEntry.layout).Requires q name := by
    rw [schema, Schema.requires_record_iff]
    simp [layout, Schema.requires_list_iff, RuntimeConfig.not_requires]
  simp only [haccounts, AccountEntry.requires_iff]
  constructor
  · rintro ⟨i, q, rfl, ⟨rfl, rfl⟩ | ⟨j, rfl, rfl | rfl⟩⟩
    · exact .address i
    · exact .key i j
    · exact .value i j
  · rintro (i | ⟨i, j⟩ | ⟨i, j⟩)
    · exact ⟨i, _, rfl, .inl ⟨rfl, rfl⟩⟩
    · exact ⟨i, _, rfl, .inr ⟨j, rfl, .inl rfl⟩⟩
    · exact ⟨i, _, rfl, .inr ⟨j, rfl, .inr rfl⟩⟩

/-! ## Encoded configurations -/

theorem Schema.InRecords.of_plain {fields : List (String × Bool × Schema)}
    (h : ∀ x ∈ fields, x.2.2 = .plain) (fs : List (String × Document)) :
    (Schema.record fields).InRecords (.record fs) := by
  refine .record fun x _ required s hs => ?_
  have hplain : s = .plain := h _ hs
  rw [hplain]
  exact .plain _

theorem RuntimeConfig.inRecords_document (c : RuntimeConfig) :
    (Schema.record layout).InRecords c.document := by
  have hengine : (Schema.record EngineConfig.layout).InRecords c.engine.document := by
    refine .of_plain ?_ _
    simp [EngineConfig.layout]
  have hexecution : (Schema.record ExecutionConfig.layout).InRecords c.execution.document := by
    refine .of_plain ?_ _
    simp [ExecutionConfig.layout]
  refine .record ?_
  simp [layout, hengine, hexecution]

theorem AccountEntry.inRecords_document (a : AccountEntry) :
    (Schema.record layout).InRecords a.document := by
  have hslot : ∀ e : StorageEntry, (Schema.record StorageEntry.layout).InRecords e.document := by
    refine fun e => .of_plain ?_ _
    simp [StorageEntry.layout]
  have hstorage : (Schema.list (.record StorageEntry.layout)).InRecords
      (.list (a.storage.map StorageEntry.document)) :=
    .list (by simp [hslot])
  refine .record ?_
  simp [layout, hstorage, Schema.InRecords.plain]

theorem ConfigFile.inRecords_document (c : ConfigFile) : schema.InRecords c.document := by
  have haccounts : (Schema.list (.record AccountEntry.layout)).InRecords
      (.list (c.accounts.map AccountEntry.document)) :=
    .list (by simp [AccountEntry.inRecords_document])
  refine .record ?_
  simp [layout, haccounts, RuntimeConfig.inRecords_document]

/-! ## What is read -/

/-- **Omissions are defaults.** A document with its structures as records that is read as a
configuration, in any format. Without any selection of fields that leaves the required ones, it is
read as the same configuration with the defaults in the places of these fields. Fields with
undeclared names in any structure make no difference to this, nor do empty records in the places of
structures that are not there. Without one of the required fields, that field is reported as
missing. What stands for a structure that is left out is what is read from an empty record. -/
theorem omissions_are_defaults {format : Format} {d : Document} {c : ConfigFile}
    (hd : ConfigFile.schema.InRecords d) (hread : ConfigFile.shape.read format d = .ok c) :
    (∀ sel : Selection, (∀ p name, ConfigFile.Required p name → sel p = false) →
        ConfigFile.shape.read format (ConfigFile.schema.without sel d) = .ok (c.defaulted sel) ∧
        ∀ e, ConfigFile.schema.Padded (ConfigFile.schema.without sel d) e ∨
            ConfigFile.schema.Padded e (ConfigFile.schema.without sel d) →
          ConfigFile.shape.read format e = .ok (c.defaulted sel)) ∧
      (∀ p name, ConfigFile.Required p name → d.HasField p →
        ConfigFile.shape.read format (ConfigFile.schema.without (.only p) d) =
          .error (.missingField name)) ∧
      ConfigFile.shape.read format (.record []) = .ok {} ∧
      RuntimeConfig.shape.read format (.record []) = .ok {} ∧
      EngineConfig.shape.read format (.record []) = .ok {} ∧
      ExecutionConfig.shape.read format (.record []) = .ok {} := by
  have hconforms : ConfigFile.shape.read.Conforms ConfigFile.schema ConfigFile.defaulted :=
    ConfigFile.conforms.read
  refine ⟨?_, ?_, ConfigFile.read_empty format, RuntimeConfig.read_empty format,
    EngineConfig.read_empty format, ExecutionConfig.read_empty format⟩
  · intro sel hsel
    have hspares : ConfigFile.schema.Spares sel :=
      fun p name hp => hsel p name (ConfigFile.requires_iff.1 hp)
    have hwithout := hconforms.without hd hspares hread
    refine ⟨hwithout, ?_⟩
    rintro e (he | he)
    · exact (hconforms.padded he).1 hwithout
    · exact (hconforms.padded he).2 hwithout
  · intro p name hp hfield
    exact hconforms.missing (ConfigFile.requires_iff.2 hp) hfield hread

theorem omissions_are_defaults_of_account : ∃ c : ConfigFile,
    ConfigFile.shape.read .toml c.document = .ok c ∧
      ConfigFile.shape.read .toml
          (ConfigFile.schema.without (.only [.field "runtime"]) c.document) =
        .ok { runtime := {}, accounts := c.accounts } ∧
      ConfigFile.shape.read .toml (ConfigFile.schema.without
        (.only [.field "accounts", .item 0, .field "storage", .item 0, .field "key"])
        c.document) = .error (.missingField "key") := by
  let c : ConfigFile := {
    runtime := { engine := { name := "other" } }
    accounts := [{ address := defaultDestination, storage := [⟨Fixed.zero 32, Fixed.zero 32⟩] }] }
  have hread := ConfigFile.restores .toml c
  obtain ⟨hwithout, hmissing, -⟩ := omissions_are_defaults c.inRecords_document hread
  have hruntime : ∀ p name, ConfigFile.Required p name →
      Selection.only [.field "runtime"] p = false := by
    rintro p name (_ | _ | _) <;> simp [Selection.only]
  have hslot : c.document.HasField
      [.field "accounts", .item 0, .field "storage", .item 0, .field "key"] :=
    .field (.tail _ (.head _)) (.item rfl (.field (.tail _ (.tail _ (.tail _ (.head _))))
      (.item rfl (.here (.head _)))))
  exact ⟨c, hread, (hwithout _ hruntime).1, hmissing _ _ (.key 0 0) hslot⟩

end EngineHost
