/-
Texts and the paths in them.

A text is its list of characters here, and a path a text whose components are separated by `/`.  The
operations are those of a scripting language's strings and of its path module: the first occurrence of a
pattern, the text without a prefix or without its last characters, the last component, and joining.

* `Paths.find` — where a pattern occurs first;
* `Paths.basename`, `Paths.dirname`, `Paths.rsplit` — the last component, and what is before it;
* `Paths.join` — a path below another one;
* `Paths.basename_append`, `Paths.rsplit_append` — taking a path apart that was put together;
* `Paths.not_mem_of_mem_splitOn`, `Paths.getLast?_of_tail_splitOn` — the components of a path.
-/

import Mathlib.Data.List.DropRight
import Mathlib.Tactic.Common

set_option relaxedAutoImplicit false
set_option autoImplicit false

namespace Paths

/-- A text, as its characters. -/
abbrev Text := List Char

/-- `text.startswith(prefix)`, with what follows the prefix. -/
def stripPrefix (pre text : Text) : Option Text := pre.isPrefixOf? text

/-- The index at which `pat` occurs first. -/
def find (pat : Text) : Text → Option ℕ
  | [] => if pat = [] then some 0 else none
  | c :: text => if pat.isPrefixOf (c :: text) then some 0 else (find pat text).map (· + 1)

/-- `text.rstrip(c)`. -/
def rstrip (c : Char) (text : Text) : Text := text.rdropWhile (· = c)

/-- `os.path.basename`: what follows the last slash. -/
def basename (path : Text) : Text := path.rtakeWhile (· ≠ '/')

/-- `text.rsplit("/", 1)`: the parts around the last slash, if there is one. -/
def rsplit (text : Text) : Option (Text × Text) :=
  match text.rdropWhile (· ≠ '/') with
  | [] => none
  | before => some (before.dropLast, basename text)

/-- `os.path.dirname`: what precedes the last component. -/
def dirname (path : Text) : Text :=
  let head := path.rdropWhile (· ≠ '/')
  if head.all (· = '/') then head else rstrip '/' head

/-- `os.path.join`. -/
def join (a b : Text) : Text :=
  if b.head? = some '/' then b
  else if a = [] ∨ a.getLast? = some '/' then a ++ b
  else a ++ '/' :: b

theorem stripPrefix_append (pre text : Text) : stripPrefix pre (pre ++ text) = some text := by
  rw [stripPrefix, List.isPrefixOf?_eq_some_iff_append_eq]

theorem rtakeWhile_append {p : Char → Bool} {a b : Text} (hb : ∀ c ∈ b, p c = true) (x : Char)
    (hx : p x = false) : (a ++ x :: b).rtakeWhile p = b := by
  rw [List.rtakeWhile, List.reverse_append, List.reverse_cons, List.append_assoc,
    List.takeWhile_append_of_pos (by simpa using hb), List.singleton_append,
    List.takeWhile_cons_of_neg (by simp [hx])]
  simp

theorem rdropWhile_append {p : Char → Bool} {a b : Text} (hb : ∀ c ∈ b, p c = true) (x : Char)
    (hx : p x = false) : (a ++ x :: b).rdropWhile p = a ++ [x] := by
  rw [List.rdropWhile, List.reverse_append, List.reverse_cons, List.append_assoc,
    List.dropWhile_append_of_pos (by simpa using hb), List.singleton_append,
    List.dropWhile_cons_of_neg (by simp [hx])]
  simp

/-- The last component of a path. -/
theorem basename_append {a b : Text} (hb : '/' ∉ b) : basename (a ++ '/' :: b) = b :=
  rtakeWhile_append (fun c hc => by simpa using fun heq : c = '/' => hb (heq ▸ hc)) '/' (by simp)

/-- **A path is taken apart** where its last component was put below the rest. -/
theorem rsplit_append {a b : Text} (hb : '/' ∉ b) : rsplit (a ++ '/' :: b) = some (a, b) := by
  have hdrop : (a ++ '/' :: b).rdropWhile (· ≠ '/') = a ++ ['/'] :=
    rdropWhile_append (fun c hc => by simpa using fun heq : c = '/' => hb (heq ▸ hc)) '/' (by simp)
  rw [rsplit, hdrop, basename_append hb]
  cases a with
  | nil => rfl
  | cons c a =>
      change some ((c :: a ++ ['/']).dropLast, b) = _
      rw [List.dropLast_concat]

/-! ### Components -/

/-- A component holds no separator. -/
theorem not_mem_of_mem_splitOn {c : Char} {text l : Text} (hl : l ∈ text.splitOn c) : c ∉ l := by
  induction text generalizing l with
  | nil =>
      rw [List.splitOn_nil, List.mem_singleton] at hl
      simp [hl]
  | cons x text ih =>
      rw [List.splitOn_cons_eq_if_modifyHead] at hl
      obtain ⟨first, rest, hsplit⟩ := List.exists_cons_of_ne_nil (List.splitOn_ne_nil c text)
      rw [hsplit] at hl ih
      split at hl
      · rcases List.mem_cons.1 hl with rfl | hl
        · exact List.not_mem_nil
        · exact ih hl
      · next hx =>
          rcases List.mem_cons.1 hl with rfl | hl
          · rw [List.mem_cons, not_or]
            exact ⟨fun heq => hx (by simp [heq]), ih List.mem_cons_self⟩
          · exact ih (List.mem_cons_of_mem _ hl)

/-- A text whose second and last component is empty ends in the separator. -/
theorem getLast?_of_tail_splitOn {c : Char} {text : Text} (h : (text.splitOn c).tail = [[]]) :
    text.getLast? = some c := by
  obtain ⟨first, rest, hsplit⟩ := List.exists_cons_of_ne_nil (List.splitOn_ne_nil c text)
  rw [hsplit, List.tail_cons] at h
  have hjoin : [c].intercalate (text.splitOn c) = text := List.intercalate_splitOn c
  rw [← hjoin, hsplit, h]
  simp

end Paths
