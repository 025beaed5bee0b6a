import EngineHost.Proofs.Engine.OptionState
import EngineHost.Proofs.Numeral.Decimal

/-!
# Reading the option back

The reference engine tells the value of its option as the decimal text of the value, which is not
always the text that it was set by. What it tells is a numeral again: taken from one instance, it
sets the option of any other to the same value.

## Main statements

- `ExampleVm.setOption_eq_true_iff` — the texts by which an instance comes to hold a value
- `ExampleVm.option_is_read_back` — what is told of a value that was set
-/

namespace EngineHost

namespace ExampleVm

/-- An instance with this value of the option. -/
def holding (n : Int32) : LoadedEngine ExampleVm := ⟨engine, ⟨n⟩⟩

/-- An attempt is accepted if there is a value for it, whatever value the instance has. -/
theorem setOption_eq (name value : String) (t : ExampleVm) :
    LoadedEngine.setOption ⟨engine, t⟩ name value =
      ((acceptedValue? (name, value)).isSome, ⟨engine, (trySetOption name value t).2⟩) := by
  have hloaded : LoadedEngine.trySetOption ⟨engine, t⟩ name value =
      ((trySetOption name value t).1, ⟨engine, (trySetOption name value t).2⟩) := rfl
  unfold LoadedEngine.setOption
  cases haccepted : acceptedValue? (name, value) with
  | some v =>
    rw [hloaded, trySetOption_of_some haccepted t]
    rfl
  | none =>
    obtain ⟨e, he⟩ := trySetOption_of_none haccepted
    rw [hloaded, he t]
    rfl

/-- Whatever value an instance has, a text is accepted and makes it hold `n` just if the text is a
numeral of `n`. -/
theorem setOption_eq_true_iff {value : String} {n : Int32} (t : ExampleVm) :
    LoadedEngine.setOption ⟨engine, t⟩ optionName value = (true, holding n) ↔
      Numeral.Denotes value n.toInt := by
  have haccepts {v : Int} : acceptedValue? (optionName, value) = some v ↔
      Numeral.Denotes value v ∧ IsInt32 v := by
    rw [acceptedValue?_eq_some_iff]
    exact and_iff_right rfl
  rw [setOption_eq]
  constructor
  · intro h
    obtain ⟨haccepted, hstate⟩ := Prod.mk.inj h
    obtain ⟨v, hv⟩ := Option.isSome_iff_exists.1 haccepted
    obtain ⟨hdenotes, hin⟩ := haccepts.1 hv
    rw [trySetOption_of_some hv] at hstate
    cases hstate
    rw [toInt_ofInt_of_isInt32 hin]
    exact hdenotes
  · intro hdenotes
    have hv := haccepts.2 ⟨hdenotes, isInt32_toInt n⟩
    rw [trySetOption_of_some hv, hv, Int32.ofInt_toInt]
    rfl

/-- **The option is read back.** Any 32-bit signed integer `n`, and any instance `t`. One text is
the decimal text of `n`, and an instance that holds `n` tells this text. It is accepted by `t`,
which then holds `n` as well. The texts that do the same are the numerals of `n`, in any radix, with
any zeros, sign and blanks that they may have. After each of them, `t` tells the decimal text. -/
theorem option_is_read_back (n : Int32) (t : ExampleVm) :
    ∃ text, Numeral.IsDecimal text n.toInt ∧
      (∀ other, Numeral.IsDecimal other n.toInt → other = text) ∧
      (holding n).getOption optionName = some text ∧
      LoadedEngine.setOption ⟨engine, t⟩ optionName text = (true, holding n) ∧
      ∀ value,
        (LoadedEngine.setOption ⟨engine, t⟩ optionName value = (true, holding n) ↔
          Numeral.Denotes value n.toInt) ∧
        (Numeral.Denotes value n.toInt →
          (LoadedEngine.setOption ⟨engine, t⟩ optionName value).2.getOption optionName =
            some text) := by
  have hdecimal : Numeral.IsDecimal (toString n.toInt) n.toInt := Numeral.isDecimal_iff.2 rfl
  have hget : (holding n).getOption optionName = some (toString n.toInt) := rfl
  refine ⟨toString n.toInt, hdecimal, fun other => Numeral.isDecimal_iff.1, hget, ?_,
    fun value => ⟨setOption_eq_true_iff t, fun hvalue => ?_⟩⟩
  · exact (setOption_eq_true_iff t).2 hdecimal.denotes
  · rw [(setOption_eq_true_iff t).2 hvalue]
    exact hget

end ExampleVm

end EngineHost
