/-
Values on a command line. A pair is taken apart at its first equals sign
(`Variables.readPair_eq`), and updating values by those of several pairs is
inserting the pairs one after the other, so that later ones win
(`Variables.readPairs_update`).
-/
import PageTemplate.Proofs.Dictionary
import PageTemplate.Proofs.Result
import PageTemplate.Variables

namespace PageTemplate.Variables

variable [Platform]

/-- A text with an equals sign is a key up to the first one and a value behind it, each without the blanks
at its ends. -/
theorem readPair_eq {key : String} (h : '=' ∉ key.toList) (value : String) :
    readPair (key ++ "=" ++ value) =
      if Text.strip key = "" then .error (.noKey (key ++ "=" ++ value))
      else (decode (Text.strip value)).map fun value => (Text.strip key, value) := by
  have hlist : (key ++ "=" ++ value).toList = key.toList ++ '=' :: value.toList := by
    rw [String.toList_append, String.toList_append, List.append_assoc]
    rfl
  have hkey : ∀ c ∈ key.toList, (c != '=') = true := fun c hc => by
    rw [bne_iff_ne]
    exact fun he => h (he ▸ hc)
  have hbefore : (key ++ "=" ++ value).toList.takeWhile (· != '=') = key.toList := by
    rw [hlist, List.takeWhile_append_of_pos hkey, List.takeWhile_cons_of_neg (by decide), List.append_nil]
  have hbehind : (key ++ "=" ++ value).toList.dropWhile (· != '=') = '=' :: value.toList := by
    rw [hlist, List.dropWhile_append_of_pos hkey, List.dropWhile_cons_of_neg (by decide)]
  have hequals : (key ++ "=" ++ value).toList.contains '=' = true := by
    rw [hlist]
    simp
  simp only [readPair, hbefore, hbehind, hequals, Bool.not_true, Bool.false_eq_true, if_false,
    List.drop_one, List.tail_cons, String.ofList_toList]

/-- A text without an equals sign is no pair. -/
theorem readPair_of_not_mem {pair : String} (h : '=' ∉ pair.toList) : readPair pair = .error (.noEquals pair) := by
  have hequals : pair.toList.contains '=' = false := by simpa using h
  simp only [readPair, hequals, Bool.not_false, if_true]

/-- Inserts the pairs of a command line into values, from left to right. -/
def insertPairs (values : Dictionary Json) (pairs : List String) : Except Fault (Dictionary Json) :=
  pairs.foldlM (fun values pair =>
    (readPair pair).map fun (key, value) => Dictionary.insert values key value) values

theorem insertPairs_cons (values : Dictionary Json) (pair : String) (pairs : List String) :
    insertPairs values (pair :: pairs) =
      (readPair pair >>= fun (key, value) => insertPairs (Dictionary.insert values key value) pairs) := by
  rw [insertPairs, List.foldlM_cons]
  cases readPair pair <;> rfl

/-- Values updated by what pairs give are the values with the pairs inserted in turn. -/
theorem insertPairs_update (values : Dictionary Json) {read : Dictionary Json} (h : read.Distinct)
    (pairs : List String) :
    (insertPairs read pairs).map values.update = insertPairs (values.update read) pairs := by
  induction pairs generalizing read with
  | nil => rfl
  | cons pair pairs ih =>
    rw [insertPairs_cons, insertPairs_cons]
    cases readPair pair with
    | error fault => rfl
    | ok entry =>
      obtain ⟨key, value⟩ := entry
      have hrest := ih (h.insert key value)
      rw [Dictionary.update_insert values h] at hrest
      exact hrest

theorem readPairs_update (values : Dictionary Json) (pairs : List String) :
    (readPairs pairs).map values.update = insertPairs values pairs := by
  have hnil : Dictionary.Distinct ([] : Dictionary Json) := List.nodup_nil
  exact insertPairs_update values hnil pairs

end PageTemplate.Variables
