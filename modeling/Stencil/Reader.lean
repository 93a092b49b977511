import Stencil.Text.Classes

/-!
# Readers

A `Reader` takes a front part of a text and hands on the rest. Its bound `length_le`, that the rest
is never longer than the text, is what makes loops over readers end: a loop that takes at least one
character by itself may call any reader in between.
-/

namespace Stencil

/-- Takes a front part of a text; the rest comes with the result. -/
@[ext] structure Reader (α : Type) where
  run : List Char → α × List Char
  length_le : ∀ s, (run s).2.length ≤ s.length

namespace Reader

variable {α β : Type}

instance : Monad Reader where
  pure a := ⟨fun s => (a, s), fun _ => Nat.le_refl _⟩
  bind x f :=
    ⟨fun s =>
      let r := x.run s
      (f r.1).run r.2,
      fun s => Nat.le_trans ((f (x.run s).1).length_le _) (x.length_le s)⟩

/-- A result that is there takes nothing. -/
@[simp] theorem run_pure (a : α) (s : List Char) : (pure a : Reader α).run s = (a, s) := rfl

/-- The second of two steps goes on from what the first one has left. -/
@[simp] theorem run_bind (x : Reader α) (f : α → Reader β) (s : List Char) :
    (x >>= f).run s = (f (x.run s).1).run (x.run s).2 := rfl

/-- A function of the result leaves the rest as it is. -/
@[simp] theorem run_map (f : α → β) (x : Reader α) (s : List Char) :
    (f <$> x).run s = (f (x.run s).1, (x.run s).2) := rfl

instance : LawfulMonad Reader :=
  LawfulMonad.mk'
    Reader
    (fun _ => rfl)
    (fun _ _ => rfl)
    (fun _ _ _ => rfl)

/-- A reader that is only built when it is run. -/
def delay (x : Unit → Reader α) : Reader α :=
  ⟨fun s => (x ()).run s, fun s => (x ()).length_le s⟩

/-- If its first step takes characters, so does a reader of two steps. -/
theorem run_bind_length_le {x : Reader α} (f : α → Reader β) {s : List Char} {n : Nat}
    (h : (x.run s).2.length ≤ n) : ((x >>= f).run s).2.length ≤ n :=
  Nat.le_trans ((f _).length_le _) h

/-- The next character, which is not taken. -/
def peek? : Reader (Option Char) :=
  ⟨fun s => (s.head?, s), fun _ => Nat.le_refl _⟩

/-- Whether nothing is left. -/
def atEnd : Reader Bool :=
  ⟨fun s => (s.isEmpty, s), fun _ => Nat.le_refl _⟩

/-- Whether the text goes on with `t`, which is not taken. -/
def isAt (t : List Char) : Reader Bool :=
  ⟨fun s => (t.isPrefixOf s, s), fun _ => Nat.le_refl _⟩

/-- Takes `t` if the text goes on with it, and tells whether it did. -/
def eat (t : List Char) : Reader Bool :=
  ⟨fun s => if t.isPrefixOf s then (true, s.drop t.length) else (false, s), fun s => by
    split
    · exact (List.drop_sublist _ _).length_le
    · exact Nat.le_refl _⟩

/-- Drops a number of characters. -/
def skip (n : Nat) : Reader Unit :=
  ⟨fun s => ((), s.drop n), fun _ => (List.drop_sublist _ _).length_le⟩

/-- Takes the characters up to the first one outside a class. -/
def takeWhile (p : Char → Bool) : Reader (List Char) :=
  ⟨fun s => (s.takeWhile p, s.dropWhile p), fun _ => (List.dropWhile_sublist _).length_le⟩

/-- Drops the blanks in front. -/
def blanks : Reader Unit :=
  ⟨fun s => ((), s.dropWhile Text.isBlank), fun _ => (List.dropWhile_sublist _).length_le⟩

/-- Takes the word in front, which may be empty. -/
def word : Reader String :=
  String.ofList <$> takeWhile Text.isWordChar

/-- Takes `w` if it is the whole word in front, and tells whether it did. -/
def keyword (w : List Char) : Reader Bool :=
  ⟨fun s =>
    if w.isPrefixOf s && !(s.drop w.length).head?.any Text.isWordChar then
      (true, s.drop w.length)
    else (false, s), fun s => by
    split
    · exact (List.drop_sublist _ _).length_le
    · exact Nat.le_refl _⟩

section
variable (s : List Char)

/-- A look at the next character takes nothing. -/
@[simp] theorem run_peek? : peek?.run s = (s.head?, s) := rfl

/-- A look for the end takes nothing. -/
@[simp] theorem run_atEnd : atEnd.run s = (s.isEmpty, s) := rfl

/-- A look at what comes next takes nothing. -/
@[simp] theorem run_isAt (t : List Char) : (isAt t).run s = (t.isPrefixOf s, s) := rfl

/-- A text is taken if it comes next. -/
@[simp] theorem run_eat (t : List Char) :
    (eat t).run s = if t.isPrefixOf s then (true, s.drop t.length) else (false, s) := rfl

/-- Characters are skipped as far as there are any. -/
@[simp] theorem run_skip (n : Nat) : (skip n).run s = ((), s.drop n) := rfl

/-- Characters of a kind are taken up to the first other one. -/
@[simp] theorem run_takeWhile (p : Char → Bool) :
    (takeWhile p).run s = (s.takeWhile p, s.dropWhile p) := rfl

/-- Blanks are dropped up to the first other character. -/
@[simp] theorem run_blanks : blanks.run s = ((), s.dropWhile Text.isBlank) := rfl

/-- A word goes up to the first character that words do not have. -/
@[simp] theorem run_word :
    word.run s = (String.ofList (s.takeWhile Text.isWordChar), s.dropWhile Text.isWordChar) := rfl

end

end Reader

end Stencil
