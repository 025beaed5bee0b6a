import EngineHost.Proofs.Engine.Counter
import EngineHost.Proofs.Host.Journal

/-!
# The reference engine against any host

A host may answer what it likes, and differently each time. The reference engine asks it for
nothing, unless the code is the counter code: then it reads slot zero of the destination and writes
it back, with the last byte of what was answered counted up. What a call gives does not depend on
the host, and it tells which of its codes the engine has recognised.

## Main definitions

- `ExampleVm.patterns`, `ExampleVm.Variant` — the codes that are recognised, and those close to one

## Main statements

- `ExampleVm.result_tells_code` — the result of a call, and the code that it comes from
- `ExampleVm.run_execute_fst` — no host changes the result
- `ExampleVm.any_host_sees_one_count` — what a host is asked, and what it is left with
-/

namespace EngineHost.ExampleVm

/-! ## Codes that are close to a pattern -/

/-- The codes that are recognised, apart from the empty one. -/
def patterns : List Bytes := [returnAddressCode, counterCode]

/-- The ASCII letters in lower case; other bytes stay. -/
def lowerByte (b : UInt8) : UInt8 := if 0x41 ≤ b ∧ b ≤ 0x5a then b + 0x20 else b

/-- A code that differs from a pattern in its end, in the case of its letters or in one byte. -/
inductive Variant (pattern : Bytes) : Bytes → Prop where
  | cut {code : Bytes} (h : code <+: pattern) : Variant pattern code
  | extended {code : Bytes} (h : pattern <+: code) : Variant pattern code
  | recased {code : Bytes} (h : code.map lowerByte = pattern.map lowerByte) : Variant pattern code
  | replaced (index : Nat) (b : UInt8) : Variant pattern (pattern.set index b)

/-- Of the two patterns, which differ in their first byte and in their length, neither is a variant
of the other. -/
theorem eq_of_variant {pattern code : Bytes} (hpattern : pattern ∈ patterns)
    (hcode : code ∈ patterns) (h : Variant pattern code) : code = pattern := by
  have hpatterns : ∀ p ∈ patterns, ∀ q ∈ patterns,
      (p <+: q → p = q) ∧ (p.length = q.length → p = q) := by decide +kernel
  obtain ⟨hbegins, hlength⟩ := hpatterns code hcode pattern hpattern
  cases h with
  | cut h => exact hbegins h
  | extended h => exact ((hpatterns pattern hpattern code hcode).1 h).symm
  | recased h => exact hlength (by simpa using congrArg List.length h)
  | replaced index b => exact hlength List.length_set

/-! ## Calls -/

/-- What a call gives, for each of the codes that are recognised and for all others. -/
theorem result_cases (revision : Revision) (message : CallMessage) (code : Bytes) :
    (code = [] ∧ result revision message code =
        ⟨.failure, 0, .constant (utf8 (greeting revision))⟩) ∨
      (code = returnAddressCode ∧ result revision message code =
        ⟨.success, 0, .owned ⟨message.address.bytes, name⟩⟩) ∨
      (code = counterCode ∧ result revision message code = ⟨.success, 0, .none⟩) ∨
      ((code ≠ [] ∧ code ≠ returnAddressCode ∧ code ≠ counterCode) ∧
        result revision message code = ⟨.failure, 0, .none⟩) := by
  by_cases hempty : code = []
  · refine .inl ⟨hempty, ?_⟩
    rw [result, if_pos hempty]
    rfl
  · by_cases hreturn : code = returnAddressCode
    · refine .inr (.inl ⟨hreturn, ?_⟩)
      rw [result, if_neg hempty, if_pos hreturn]
      rfl
    · by_cases hcounter : code = counterCode
      · refine .inr (.inr (.inl ⟨hcounter, ?_⟩))
        rw [hcounter]
        exact result_counterCode revision message
      · refine .inr (.inr (.inr ⟨⟨hempty, hreturn, hcounter⟩, ?_⟩))
        rw [result, if_neg hempty, if_neg hreturn, if_neg hcounter]
        rfl

/-- The kind of a result tells which code was recognised, and its output is the one for this
kind. -/
theorem result_tells_code (revision : Revision) (message : CallMessage) (code : Bytes) :
    ∃ given, given = result revision message code ∧
      ((given.status = .failure ∧ ∃ bytes, given.output = .constant bytes) ↔ code = []) ∧
      (∀ bytes, given.output = .constant bytes → bytes = utf8 (greeting revision)) ∧
      ((given.status = .success ∧ ∃ buffer, given.output = .owned buffer) ↔
        code = returnAddressCode) ∧
      (∀ buffer, given.output = .owned buffer →
        buffer.bytes = message.address.bytes ∧ buffer.bytes.length = 20) ∧
      ((given.status = .success ∧ given.output = .none) ↔ code = counterCode) ∧
      ((given.status = .failure ∧ given.output = .none) ↔
        code ≠ [] ∧ code ≠ returnAddressCode ∧ code ≠ counterCode) ∧
      given.gasLeft = 0 := by
  have hreturn : returnAddressCode ≠ [] := by decide +kernel
  refine ⟨_, rfl, ?_⟩
  rcases result_cases revision message code with
    ⟨rfl, hr⟩ | ⟨rfl, hr⟩ | ⟨rfl, hr⟩ | ⟨⟨hempty, hother, hcounter⟩, hr⟩
  · simp [hr, hreturn.symm, counterCode_ne_nil.symm]
  · simp [hr, hreturn, counterCode_ne_returnAddressCode.symm, message.address.length_eq]
  · simp [hr, counterCode_ne_nil, counterCode_ne_returnAddressCode]
  · simp [hr, hempty, hother, hcounter]

variable {ω : Type} (host : Host ω) (revision : Revision) (message : CallMessage) (code : Bytes)
  (s : ExampleVm) (w : ω)

/-- The result does not depend on the host, and the engine stays as it is. -/
theorem run_execute_fst :
    ((execute revision message code s).run host w).1 = (result revision message code, s) := by
  by_cases hc : code = counterCode
  · subst hc
    rw [execute_counterCode, result_counterCode]
    rfl
  · rw [execute_of_ne_counterCode revision message s hc]
    rfl

/-- **Any host sees one count, or nothing.** A host in any state and with any answers, an engine
with any option, and any call. The host is asked for nothing and stays as it is, unless the code is
the counter code. Then it is asked twice: to read slot zero of the destination, and to write back
what it answered, with the last byte counted up modulo 256 and the others as they were. The result
fails with a constant output if and only if the code is empty, and then this is the greeting; it
succeeds with an owned output if and only if the code is the one for the address, and then this is
the twenty bytes of the destination; it succeeds without an output if and only if the code is the
counter code; and it fails without an output for all other codes, among them those close to a
pattern. No gas is left, and the engine stays as it is. -/
theorem any_host_sees_one_count :
    ∃ (asked : List Callback) (given : ExecutionResult) (left : ω),
      asked = (execute revision message code s).callbacks host w ∧
      (execute revision message code s).run host w = ((given, s), left) ∧
      (code ≠ counterCode → asked = [] ∧ left = w) ∧
      (code = counterCode → ∃ old new : Word,
        old = (host.getStorage message.address (Fixed.zero 32) w).1 ∧
        new.bytes.take 31 = old.bytes.take 31 ∧
        new.lowByte.toNat = (old.lowByte.toNat + 1) % 256 ∧
        asked = [.getStorage message.address (Fixed.zero 32),
          .setStorage message.address (Fixed.zero 32) new] ∧
        left = host.setStorage message.address (Fixed.zero 32) new
          (host.getStorage message.address (Fixed.zero 32) w).2) ∧
      ((given.status = .failure ∧ ∃ bytes, given.output = .constant bytes) ↔ code = []) ∧
      (∀ bytes, given.output = .constant bytes → bytes = utf8 (greeting revision)) ∧
      ((given.status = .success ∧ ∃ buffer, given.output = .owned buffer) ↔
        code = returnAddressCode) ∧
      (∀ buffer, given.output = .owned buffer →
        buffer.bytes = message.address.bytes ∧ buffer.bytes.length = 20) ∧
      ((given.status = .success ∧ given.output = .none) ↔ code = counterCode) ∧
      ((given.status = .failure ∧ given.output = .none) ↔
        code ≠ [] ∧ code ≠ returnAddressCode ∧ code ≠ counterCode) ∧
      (∀ pattern ∈ patterns, Variant pattern code → code ≠ pattern → code ≠ [] →
        given.status = .failure ∧ given.output = .none) ∧
      given.gasLeft = 0 := by
  have hrun : (execute revision message code s).run host w =
      ((result revision message code, s), ((execute revision message code s).run host w).2) :=
    Prod.ext (run_execute_fst host revision message code s w) rfl
  refine ⟨_, _, _, rfl, hrun, ?_, ?_, ?_⟩
  · intro hc
    rw [execute_of_ne_counterCode revision message s hc]
    exact ⟨rfl, rfl⟩
  · rintro rfl
    rw [execute_counterCode]
    exact ⟨_, _, rfl, Word.take_addLowByte 1 _, Word.toNat_lowByte_addLowByte 1 _, rfl, rfl⟩
  · obtain ⟨given, rfl, hempty, hgreeting, hreturn, hbuffer, hcounter, hother, hgas⟩ :=
      result_tells_code revision message code
    refine ⟨hempty, hgreeting, hreturn, hbuffer, hcounter, hother, ?_, hgas⟩
    intro pattern hpattern hvariant hne hnonempty
    refine hother.2 ⟨hnonempty, fun h => hne ?_, fun h => hne ?_⟩
    · exact eq_of_variant hpattern (by simp [patterns, h]) hvariant
    · exact eq_of_variant hpattern (by simp [patterns, h]) hvariant

end EngineHost.ExampleVm
