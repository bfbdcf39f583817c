import HourlyIngest.Connection.Parameters
import HourlyIngest.Proofs.Number.Numeral

/-!
# Setting parameters by name

Every name of a parameter is known to one of four setters, and the other three leave it alone.  Here
is what comes of the names that a connection cannot do without.
-/

namespace HourlyIngest.Connection

open Number Text

variable {parameters : Parameters} {name value : String}

/-! ## Lists of one item -/

theorem splitCommas_of_notMem {text : List Char} (hcomma : ',' ∉ text) :
    splitCommas text = [text] := by
  induction text with
  | nil => rfl
  | cons c text ih =>
      rw [List.mem_cons, not_or] at hcomma
      rw [splitCommas, if_neg (Ne.symm hcomma.1), ih hcomma.2]

theorem comma_notMem_digits (n : Nat) : ',' ∉ digits n := by
  intro hcomma
  exact absurd ((digits_toDigits n).isDigit ',' hcomma) (by decide)

theorem readPort?_digits {port : Nat} (hport : port ≤ maxUnsigned16) :
    readPort? (digits port) = some port := by
  have hempty : (digits port).isEmpty = false :=
    List.isEmpty_eq_false_iff.mpr (digits_toDigits port).ne_nil
  have hread : readUnsigned maxUnsigned16 (digits port) = .ok port := readUnsigned_toDigits hport
  rw [readPort?, hempty, if_neg Bool.false_ne_true, hread]
  rfl

namespace Parameters

/-! ## Names and their setters -/

theorem set?_eq_setNumber? (htext : parameters.setText? name value = none)
    (hword : parameters.setWord? name value = none)
    (hlist : parameters.setList? name value = none) :
    parameters.set? name value = parameters.setNumber? name value := by
  simp only [set?, List.findSome?_cons, List.findSome?_nil, htext, hword, hlist]
  cases parameters.setNumber? name value <;> rfl

theorem set?_eq_setList? (htext : parameters.setText? name value = none)
    (hword : parameters.setWord? name value = none)
    (hnumber : parameters.setNumber? name value = none) :
    parameters.set? name value = parameters.setList? name value := by
  simp only [set?, List.findSome?_cons, List.findSome?_nil, htext, hword, hnumber]
  cases parameters.setList? name value <;> rfl

theorem set?_user (parameters : Parameters) (value : String) :
    parameters.set? "user" value = some { parameters with user := some value } :=
  rfl

theorem set?_password (parameters : Parameters) (value : String) :
    parameters.set? "password" value =
      some { parameters with password := some (encode value) } :=
  rfl

theorem set?_dbname (parameters : Parameters) (value : String) :
    parameters.set? "dbname" value = some { parameters with dbname := some value } :=
  rfl

/-- A text without commas names one host. -/
theorem set?_host (parameters : Parameters) (hcomma : ',' ∉ value.toList) :
    parameters.set? "host" value = some (parameters.addHost (Host.ofString value)) := by
  rw [set?_eq_setList? rfl rfl rfl]
  simp [setList?, splitCommas_of_notMem hcomma, addHost]

theorem set?_port (parameters : Parameters) {port : Nat} (hport : port ≤ maxUnsigned16) :
    parameters.set? "port" (String.ofList (digits port)) =
      some { parameters with ports := parameters.ports ++ [port] } := by
  rw [set?_eq_setList? rfl rfl rfl]
  simp [setList?, splitCommas_of_notMem (comma_notMem_digits port), readPort?_digits hport]

end Parameters

end HourlyIngest.Connection
