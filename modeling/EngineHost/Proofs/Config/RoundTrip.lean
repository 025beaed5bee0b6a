import Mathlib.Data.Set.List
import EngineHost.Config.Decode
import EngineHost.Config.Encode
import EngineHost.Proofs.Document.FieldOrder
import EngineHost.Proofs.Text.ByteOrder
import EngineHost.Proofs.Text.Hexadecimal

/-!
# Configurations through their documents

A configuration that is encoded and decoded again is the same configuration: every field has its
place in the document, and no reader changes what a writer has written. The documents that come out
of this can be described without configurations, and they are the ones that stay as they are when
they are decoded and encoded. A document that a decoder has accepted need not be one of them, since
defaults may be missing and digits may be in either case, but it becomes one.

## Main definitions

- `Reader.Restores` — a reader gives back what a writer has written
- `Document.IsCanonical` — the documents of configurations, field by field

## Main statements

- `ConfigFile.restores`, `ConfigFile.orderless` — reading a document back, and in any order
- `ConfigFile.isCanonical_iff` — the canonical documents are the encoded ones
- `configuration_round_trip` — the whole of it
-/

namespace EngineHost

/-! ## Readers and writers -/

namespace Reader

/-- A reader gives back what was written, whatever the format. -/
def Restores {α : Type} (r : Reader α) (write : α → Document) : Prop :=
  ∀ format a, r format (write a) = .ok a

theorem restores_text : text.Restores .text := fun _ _ => rfl

theorem restores_fixed (n : Nat) : (fixed n).Restores fun a => .text a.display := by
  intro format a
  simp only [fixed, parsed, text, Fixed.parse_display]

theorem restores_int64 : int64.Restores fun n => .integer n.toInt := by
  intro format n
  have hlow := n.minValue_le_toInt
  have hhigh := n.toInt_le
  simp only [int64]
  rw [if_pos ⟨hlow, hhigh⟩, Int64.ofInt_toInt]

/-- The member with a key, among all that there are and with different keys. -/
theorem find?_eq_some_iff_of_key {α κ : Type} [BEq κ] [LawfulBEq κ] {all : List α} {key : α → κ}
    (hall : ∀ a, a ∈ all) (hkey : ∀ {a b}, key a = key b → a = b) {k : κ} {a : α} :
    (all.find? fun b => key b == k) = some a ↔ key a = k := by
  constructor
  · intro h
    simpa using List.find?_some h
  · rintro rfl
    cases hfind : all.find? fun b => key b == key a with
    | none => exact absurd (beq_self_eq_true _) (List.find?_eq_none.1 hfind a (hall a))
    | some b =>
      have hsame : key b = key a := by simpa using List.find?_some hfind
      rw [hkey hsame]

theorem named_eq_ok_iff {α : Type} {all : List α} {name : α → String} (hall : ∀ a, a ∈ all)
    (hname : ∀ {a b}, name a = name b → a = b) {s : String} {a : α} :
    named all name s = .ok a ↔ name a = s := by
  rw [← find?_eq_some_iff_of_key hall hname]
  unfold named
  cases all.find? fun b => name b == s <;> simp

theorem restores_choice {α : Type} {all : List α} {name : α → String} (hall : ∀ a, a ∈ all)
    (hname : ∀ {a b}, name a = name b → a = b) :
    (choice all name).Restores fun a => .text (name a) := by
  intro format a
  have hnamed : named all name (name a) = .ok a := (named_eq_ok_iff hall hname).2 rfl
  cases format <;> exact hnamed

theorem textFields_map (format : Format) (m : SortedMap String String)
    (pairs : List (String × String)) :
    textFields format m (pairs.map fun e => (e.1, .text e.2)) = .ok (m.insertMany pairs) := by
  induction pairs generalizing m with
  | nil => rfl
  | cons e rest ih =>
    rw [List.map_cons, textFields]
    exact ih (m.insert e.1 e.2)

theorem restores_textMap :
    textMap.Restores fun m => .record (m.entries.map fun e => (e.1, .text e.2)) := by
  intro format m
  have hentries : SortedMap.empty.insertMany m.entries = m := SortedMap.ofList_entries m
  rw [textMap, textFields_map, hentries]

theorem Restores.list {α : Type} {r : Reader α} {write : α → Document} (h : r.Restores write) :
    (list r).Restores fun as => .list (as.map write) := by
  intro format as
  show items r format (as.map write) = .ok as
  induction as with
  | nil => rfl
  | cons a rest ih => exact items_cons_eq_ok_iff.2 ⟨a, rest, h format a, ih, rfl⟩

end Reader

theorem CallKind.mem_all (k : CallKind) : k ∈ all := by
  cases k <;> decide

theorem CallKind.name_injective {a b : CallKind} (h : a.name = b.name) : a = b := by
  revert h
  cases a <;> cases b <;> decide

/-! ## Every structure reads back -/

open Reader

theorem StorageEntry.restores : shape.read.Restores document := by
  intro format e
  have hword := restores_fixed 32 format
  simp [Shape.read, document, Shape.readFields, Shape.field?, shape, Field.mandatory, Except.map,
    Shape.finish, hword]

theorem AccountEntry.restores : shape.read.Restores document := by
  intro format a
  have haddress := restores_fixed 20 format
  have hword := restores_fixed 32 format
  have htext := restores_text format
  have hstorage := StorageEntry.restores.list format
  simp [Shape.read, document, Shape.readFields, Shape.field?, shape, Field.mandatory,
    Field.optional, Except.map, Shape.finish, haddress, hword, htext, hstorage]

theorem EngineConfig.restores : shape.read.Restores document := by
  intro format c
  have htext := restores_text format
  have hrevision : Revision.reader.Restores fun r => .text r.name :=
    restores_choice Revision.mem_all Revision.name_injective
  have hoptions := restores_textMap format
  simp [Shape.read, document, Shape.readFields, Shape.field?, shape, Field.optional, Except.map,
    Shape.finish, htext, hrevision format, hoptions]

theorem ExecutionConfig.restores : shape.read.Restores document := by
  intro format c
  have haddress := restores_fixed 20 format
  have hword := restores_fixed 32 format
  have htext := restores_text format
  have hgas := restores_int64 format
  have hkind : CallKind.reader.Restores fun k => .text k.name :=
    restores_choice CallKind.mem_all CallKind.name_injective
  simp [Shape.read, document, Shape.readFields, Shape.field?, shape, Field.optional, Except.map,
    Shape.finish, haddress, hword, htext, hgas, hkind format]

theorem RuntimeConfig.restores : shape.read.Restores document := by
  intro format c
  -- The documents inside stay closed, so that reading them is left to their own readers.
  obtain ⟨engine, he⟩ : ∃ fields, c.engine.document = .record fields := ⟨_, rfl⟩
  obtain ⟨execution, hx⟩ : ∃ fields, c.execution.document = .record fields := ⟨_, rfl⟩
  have hengine := EngineConfig.restores format c.engine
  have hexecution := ExecutionConfig.restores format c.execution
  rw [he] at hengine
  rw [hx] at hexecution
  rw [document, he, hx]
  show shape.readFields format [] shape.start _ = .ok c
  simp [Shape.readFields, Shape.field?, shape, Field.optional, Except.map, Shape.finish, hengine,
    hexecution]

theorem ConfigFile.restores : shape.read.Restores document := by
  intro format c
  obtain ⟨runtime, hr⟩ : ∃ fields, c.runtime.document = .record fields := ⟨_, rfl⟩
  have hruntime := RuntimeConfig.restores format c.runtime
  have haccounts := AccountEntry.restores.list format c.accounts
  rw [hr] at hruntime
  rw [document, hr]
  show shape.readFields format [] shape.start _ = .ok c
  simp [Shape.readFields, Shape.field?, shape, Field.optional, Except.map, Shape.finish, hruntime,
    haccounts]

/-! ## In any order of the fields -/

theorem StorageEntry.orderless : shape.Orderless where
  values := by
    have hword := ignoresOrder_fixed 32
    simp only [shape, List.forall_mem_cons]
    exact ⟨(Field.sets_mandatory _).ignoresOrder hword, (Field.sets_mandatory _).ignoresOrder hword,
      nofun⟩
  independent := by
    simp only [shape, List.pairwise_cons, List.forall_mem_cons]
    refine ⟨⟨?_, nofun⟩, nofun, .nil⟩
    exact (Field.sets_mandatory _).commutes (Field.sets_mandatory _) fun _ _ _ => rfl

theorem AccountEntry.orderless : shape.Orderless where
  values := by
    have hword := ignoresOrder_fixed 32
    have hstorage := StorageEntry.orderless.read.list
    simp only [shape, List.forall_mem_cons]
    exact ⟨(Field.sets_mandatory _).ignoresOrder (ignoresOrder_fixed 20),
      (Field.sets_optional _).ignoresOrder hword,
      (Field.sets_optional _).ignoresOrder ignoresOrder_text,
      (Field.sets_optional _).ignoresOrder hstorage, nofun⟩
  independent := by
    simp only [shape, List.pairwise_cons, List.forall_mem_cons]
    refine ⟨⟨?_, ?_, ?_, nofun⟩, ⟨?_, ?_, nofun⟩, ⟨?_, nofun⟩, nofun, .nil⟩
    · exact (Field.sets_mandatory _).commutes (Field.sets_optional _) fun _ _ _ => rfl
    · exact (Field.sets_mandatory _).commutes (Field.sets_optional _) fun _ _ _ => rfl
    · exact (Field.sets_mandatory _).commutes (Field.sets_optional _) fun _ _ _ => rfl
    all_goals exact (Field.sets_optional _).commutes (Field.sets_optional _) fun _ _ _ => rfl

theorem EngineConfig.orderless : shape.Orderless where
  values := by
    have hrevision := ignoresOrder_choice Revision.all Revision.name
    simp only [shape, List.forall_mem_cons]
    exact ⟨(Field.sets_optional _).ignoresOrder ignoresOrder_text,
      (Field.sets_optional _).ignoresOrder hrevision,
      (Field.sets_optional _).ignoresOrder ignoresOrder_textMap, nofun⟩
  independent := by
    simp only [shape, List.pairwise_cons, List.forall_mem_cons]
    refine ⟨⟨?_, ?_, nofun⟩, ⟨?_, nofun⟩, nofun, .nil⟩
    all_goals exact (Field.sets_optional _).commutes (Field.sets_optional _) fun _ _ _ => rfl

theorem ExecutionConfig.orderless : shape.Orderless where
  values := by
    have haddress := ignoresOrder_fixed 20
    have hword := ignoresOrder_fixed 32
    have hkind := ignoresOrder_choice CallKind.all CallKind.name
    simp only [shape, List.forall_mem_cons]
    exact ⟨(Field.sets_optional _).ignoresOrder haddress,
      (Field.sets_optional _).ignoresOrder haddress, (Field.sets_optional _).ignoresOrder hword,
      (Field.sets_optional _).ignoresOrder hkind,
      (Field.sets_optional _).ignoresOrder ignoresOrder_int64,
      (Field.sets_optional _).ignoresOrder ignoresOrder_text,
      (Field.sets_optional _).ignoresOrder ignoresOrder_text, nofun⟩
  independent := by
    simp only [shape, List.pairwise_cons, List.forall_mem_cons]
    refine ⟨⟨?_, ?_, ?_, ?_, ?_, ?_, nofun⟩, ⟨?_, ?_, ?_, ?_, ?_, nofun⟩, ⟨?_, ?_, ?_, ?_, nofun⟩,
      ⟨?_, ?_, ?_, nofun⟩, ⟨?_, ?_, nofun⟩, ⟨?_, nofun⟩, nofun, .nil⟩
    all_goals exact (Field.sets_optional _).commutes (Field.sets_optional _) fun _ _ _ => rfl

theorem RuntimeConfig.orderless : shape.Orderless where
  values := by
    simp only [shape, List.forall_mem_cons]
    exact ⟨(Field.sets_optional _).ignoresOrder EngineConfig.orderless.read,
      (Field.sets_optional _).ignoresOrder ExecutionConfig.orderless.read, nofun⟩
  independent := by
    simp only [shape, List.pairwise_cons, List.forall_mem_cons]
    refine ⟨⟨?_, nofun⟩, nofun, .nil⟩
    exact (Field.sets_optional _).commutes (Field.sets_optional _) fun _ _ _ => rfl

theorem ConfigFile.orderless : shape.Orderless where
  values := by
    simp only [shape, List.forall_mem_cons]
    exact ⟨(Field.sets_optional _).ignoresOrder RuntimeConfig.orderless.read,
      (Field.sets_optional _).ignoresOrder AccountEntry.orderless.read.list, nofun⟩
  independent := by
    simp only [shape, List.pairwise_cons, List.forall_mem_cons]
    refine ⟨⟨?_, nofun⟩, nofun, .nil⟩
    exact (Field.sets_optional _).commutes (Field.sets_optional _) fun _ _ _ => rfl

/-! ## The documents of configurations -/

namespace Document

inductive IsSlot : Document → Prop where
  | intro {key value : String} (hkey : Fixed.IsCanonical 32 key)
      (hvalue : Fixed.IsCanonical 32 value) :
      IsSlot (.record [("key", .text key), ("value", .text value)])

/-- The document of an account, whose slots can be any number of slots in any order. -/
inductive IsAccount : Document → Prop where
  | intro {address balance code : String} {slots : List Document}
      (haddress : Fixed.IsCanonical 20 address) (hbalance : Fixed.IsCanonical 32 balance)
      (hslots : ∀ d ∈ slots, d.IsSlot) :
      IsAccount (.record [("address", .text address), ("balance", .text balance),
        ("code", .text code), ("storage", .list slots)])

/-- The document of an engine selection. The names of the options ascend as bytes. -/
inductive IsEngine : Document → Prop where
  | intro {name revision : String} {options : List (String × String)}
      (hrevision : revision ∈ Revision.all.map Revision.name)
      (hoptions : options.Pairwise fun a b => utf8 a.1 < utf8 b.1) :
      IsEngine (.record [("name", .text name), ("revision", .text revision),
        ("options", .record (options.map fun o => (o.1, .text o.2)))])

inductive IsExecution : Document → Prop where
  | intro {address sender value kind input code : String} {gas : Int}
      (haddress : Fixed.IsCanonical 20 address) (hsender : Fixed.IsCanonical 20 sender)
      (hvalue : Fixed.IsCanonical 32 value) (hkind : kind ∈ CallKind.all.map CallKind.name)
      (hlow : -2 ^ 63 ≤ gas) (hhigh : gas < 2 ^ 63) :
      IsExecution (.record [("address", .text address), ("sender", .text sender),
        ("value", .text value), ("kind", .text kind), ("gas", .integer gas),
        ("input", .text input), ("code", .text code)])

/-- The document of a configuration: the canonical form. -/
inductive IsCanonical : Document → Prop where
  | intro {engine execution : Document} {accounts : List Document} (hengine : engine.IsEngine)
      (hexecution : execution.IsExecution) (haccounts : ∀ d ∈ accounts, d.IsAccount) :
      IsCanonical (.record [("runtime", .record [("engine", engine), ("execution", execution)]),
        ("accounts", .list accounts)])

end Document

theorem exists_map_eq_iff {α : Type} {p : Document → Prop} {write : α → Document}
    (h : ∀ d, p d ↔ ∃ a, write a = d) {ds : List Document} :
    (∀ d ∈ ds, p d) ↔ ∃ as : List α, as.map write = ds := by
  have hrange : ds ∈ Set.range (List.map write) ↔ ∀ d ∈ ds, d ∈ Set.range write := by
    rw [Set.range_list_map]
    rfl
  simp only [h]
  exact hrange.symm

theorem StorageEntry.isSlot_iff {d : Document} :
    d.IsSlot ↔ ∃ e : StorageEntry, e.document = d := by
  constructor
  · rintro ⟨hkey, hvalue⟩
    obtain ⟨key, rfl⟩ := Fixed.isCanonical_iff.1 hkey
    obtain ⟨value, rfl⟩ := Fixed.isCanonical_iff.1 hvalue
    exact ⟨⟨key, value⟩, rfl⟩
  · rintro ⟨e, rfl⟩
    exact ⟨Fixed.isCanonical_iff.2 ⟨e.key, rfl⟩, Fixed.isCanonical_iff.2 ⟨e.value, rfl⟩⟩

theorem AccountEntry.isAccount_iff {d : Document} :
    d.IsAccount ↔ ∃ a : AccountEntry, a.document = d := by
  constructor
  · rintro ⟨haddress, hbalance, hslots⟩
    obtain ⟨address, rfl⟩ := Fixed.isCanonical_iff.1 haddress
    obtain ⟨balance, rfl⟩ := Fixed.isCanonical_iff.1 hbalance
    obtain ⟨storage, rfl⟩ := (exists_map_eq_iff fun _ => StorageEntry.isSlot_iff).1 hslots
    exact ⟨⟨address, balance, _, storage⟩, rfl⟩
  · rintro ⟨a, rfl⟩
    exact ⟨Fixed.isCanonical_iff.2 ⟨a.address, rfl⟩, Fixed.isCanonical_iff.2 ⟨a.balance, rfl⟩,
      (exists_map_eq_iff fun _ => StorageEntry.isSlot_iff).2 ⟨a.storage, rfl⟩⟩

theorem EngineConfig.isEngine_iff {d : Document} :
    d.IsEngine ↔ ∃ c : EngineConfig, c.document = d := by
  constructor
  · rintro ⟨hrevision, hoptions⟩
    obtain ⟨revision, -, rfl⟩ := List.mem_map.1 hrevision
    have hascending := hoptions.imp fun h => compare_eq_lt_iff_utf8_lt.2 h
    exact ⟨⟨_, revision, ⟨_, hascending⟩⟩, rfl⟩
  · rintro ⟨c, rfl⟩
    have hoptions := c.options.ascending.imp fun h => compare_eq_lt_iff_utf8_lt.1 h
    exact ⟨List.mem_map.2 ⟨c.revision, Revision.mem_all _, rfl⟩, hoptions⟩

theorem ExecutionConfig.isExecution_iff {d : Document} :
    d.IsExecution ↔ ∃ c : ExecutionConfig, c.document = d := by
  constructor
  · rintro @⟨_, _, _, _, input, code, gas, haddress, hsender, hvalue, hkind, hlow, hhigh⟩
    obtain ⟨address, rfl⟩ := Fixed.isCanonical_iff.1 haddress
    obtain ⟨sender, rfl⟩ := Fixed.isCanonical_iff.1 hsender
    obtain ⟨value, rfl⟩ := Fixed.isCanonical_iff.1 hvalue
    obtain ⟨kind, -, rfl⟩ := List.mem_map.1 hkind
    refine ⟨⟨address, sender, value, kind, Int64.ofInt gas, input, code⟩, ?_⟩
    rw [document, Int64.toInt_ofInt_of_le hlow hhigh]
  · rintro ⟨c, rfl⟩
    exact ⟨Fixed.isCanonical_iff.2 ⟨c.address, rfl⟩, Fixed.isCanonical_iff.2 ⟨c.sender, rfl⟩,
      Fixed.isCanonical_iff.2 ⟨c.value, rfl⟩, List.mem_map.2 ⟨c.kind, CallKind.mem_all _, rfl⟩,
      c.gas.le_toInt, c.gas.toInt_lt⟩

theorem ConfigFile.isCanonical_iff {d : Document} :
    d.IsCanonical ↔ ∃ c : ConfigFile, c.document = d := by
  constructor
  · rintro ⟨hengine, hexecution, haccounts⟩
    obtain ⟨engine, rfl⟩ := EngineConfig.isEngine_iff.1 hengine
    obtain ⟨execution, rfl⟩ := ExecutionConfig.isExecution_iff.1 hexecution
    obtain ⟨accounts, rfl⟩ := (exists_map_eq_iff fun _ => AccountEntry.isAccount_iff).1 haccounts
    exact ⟨⟨⟨engine, execution⟩, accounts⟩, rfl⟩
  · rintro ⟨c, rfl⟩
    exact ⟨EngineConfig.isEngine_iff.2 ⟨c.runtime.engine, rfl⟩,
      ExecutionConfig.isExecution_iff.2 ⟨c.runtime.execution, rfl⟩,
      (exists_map_eq_iff fun _ => AccountEntry.isAccount_iff).2 ⟨c.accounts, rfl⟩⟩

/-- **Configurations survive their documents.** Any configuration and any format. Decoding what was
encoded gives back the configuration as it is, with its accounts and slots in order and as often as
they are there, and so does decoding with the fields of any records in another order. What a decoder
makes of any document at all is encoded in canonical form, which decoding and encoding leave alone,
and these forms are the only documents that they leave alone. -/
theorem configuration_round_trip :
    (∀ (format : Format) (c : ConfigFile), ConfigFile.shape.read format c.document = .ok c) ∧
      (∀ (format : Format) (c : ConfigFile) (d : Document), c.document.Rearranged d →
        ConfigFile.shape.read format d = .ok c) ∧
      (∀ (format : Format) (d : Document) (c : ConfigFile),
        ConfigFile.shape.read format d = .ok c →
          c.document.IsCanonical ∧
          ∀ again : Format, ∃ c', ConfigFile.shape.read again c.document = .ok c' ∧
            c'.document = c.document) ∧
      ∀ (format : Format) (d : Document),
        d.IsCanonical ↔ ∃ c, ConfigFile.shape.read format d = .ok c ∧ c.document = d := by
  refine ⟨ConfigFile.restores, ?_, ?_, ?_⟩
  · intro format c d hd
    exact ConfigFile.orderless.read format c.document d c hd (ConfigFile.restores format c)
  · intro format d c _
    exact ⟨ConfigFile.isCanonical_iff.2 ⟨c, rfl⟩,
      fun again => ⟨c, ConfigFile.restores again c, rfl⟩⟩
  · intro format d
    constructor
    · intro hd
      obtain ⟨c, rfl⟩ := ConfigFile.isCanonical_iff.1 hd
      exact ⟨c, ConfigFile.restores format c, rfl⟩
    · rintro ⟨c, -, hc⟩
      exact ConfigFile.isCanonical_iff.2 ⟨c, hc⟩

end EngineHost
