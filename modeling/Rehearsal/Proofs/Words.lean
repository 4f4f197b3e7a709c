import Rehearsal.Words
import Mathlib.Tactic

/-!
# The words of a line do not depend on its variables

A line is cut into arguments before any variable is looked up: `cut` gives each argument as its chunks, quoted or not, and
knows no expansion. What `split` gives is `cut` with every chunk spelled out (`split_eq_cut`), and `cut` gives `args` exactly
if the line is `LaidOut` that way (`cut_eq_ok_iff`): gaps of separators, arguments as they are written, and at the end
perhaps a comment. So there is one way to read a line, and what a variable holds has no part in it.

A line that cannot be cut has an odd number of quotes in front of its comment (`cutFrom_eq_error_iff`). Where the comment
begins is a matter of quotes alone too (`IsUncommented`).

The law of quoting is the law of layout read the other way: arguments in quotes are laid out as one quoted chunk each, with
nothing behind it (`laidOut_quoted`).
-/

namespace Rehearsal.Words

/-! ## Chunks -/

/-- A piece of an argument. -/
inductive Chunk where
  /-- Text outside quotes. -/
  | plain (text : List Char)
  /-- Text inside quotes, each doubled quote of it as one. -/
  | quoted (text : List Char)
  deriving DecidableEq, Repr

/-- A text with every quote doubled. -/
def doubled (text : List Char) : List Char := text.flatMap fun c => if c == quote then [quote, quote] else [c]

/-- A chunk as a line has it. -/
def Chunk.written : Chunk → List Char
  | .plain text => text
  | .quoted text => quote :: (doubled text ++ [quote])

/-- What a chunk comes to: outside quotes its variables are expanded. -/
def Chunk.value (expand : List Char → List Char) : Chunk → List Char
  | .plain text => expand text
  | .quoted text => text

/-- An argument as a line has it. -/
def written (chunks : List Chunk) : List Char := chunks.flatMap Chunk.written

/-- What an argument comes to. -/
def value (expand : List Char → List Char) (chunks : List Chunk) : List Char := chunks.flatMap (Chunk.value expand)

@[simp] theorem doubled_nil : doubled [] = [] := rfl

@[simp] theorem doubled_cons (c : Char) (text : List Char) :
    doubled (c :: text) = (if c == quote then [quote, quote] else [c]) ++ doubled text := rfl

@[simp] theorem doubled_append (text more : List Char) : doubled (text ++ more) = doubled text ++ doubled more :=
  List.flatMap_append

@[simp] theorem written_nil : written [] = [] := rfl

@[simp] theorem written_cons (chunk : Chunk) (chunks : List Chunk) :
    written (chunk :: chunks) = chunk.written ++ written chunks := rfl

@[simp] theorem written_append (front back : List Chunk) : written (front ++ back) = written front ++ written back :=
  List.flatMap_append

@[simp] theorem value_nil (expand : List Char → List Char) : value expand [] = [] := rfl

@[simp] theorem value_cons (expand : List Char → List Char) (chunk : Chunk) (chunks : List Chunk) :
    value expand (chunk :: chunks) = chunk.value expand ++ value expand chunks := rfl

@[simp] theorem value_append (expand : List Char → List Char) (front back : List Chunk) :
    value expand (front ++ back) = value expand front ++ value expand back := List.flatMap_append

/-! ## Cutting -/

/-- Where the cutting of a line stands. The text of the current chunk is held last character first. -/
inductive Cutting where
  /-- Between arguments. -/
  | idle
  /-- In an argument, outside quotes. -/
  | plain (chunks : List Chunk) (text : List Char)
  /-- In an argument, inside quotes. -/
  | quoted (chunks : List Chunk) (text : List Char)
  /-- Behind a quote inside quotes, which ends them unless another one follows. -/
  | closed (chunks : List Chunk) (text : List Char)

namespace Cutting

/-- The argument that ends here, if one was begun. Behind quotes an unquoted chunk has begun, which is empty so far. -/
def finish : Cutting → List (List Chunk)
  | .plain chunks text => [chunks ++ [.plain text.reverse]]
  | .closed chunks text => [chunks ++ [.quoted text.reverse, .plain []]]
  | _ => []

/-- The state behind a quote outside quotes. Right behind other quotes it was the second of two. -/
def opened : Cutting → Cutting
  | .plain chunks text => .quoted (chunks ++ [.plain text.reverse]) []
  | .closed chunks text => .quoted chunks (quote :: text)
  | _ => .quoted [] []

/-- The state behind one more character outside quotes. -/
def push (c : Char) : Cutting → Cutting
  | .plain chunks text => .plain chunks (c :: text)
  | .closed chunks text => .plain (chunks ++ [.quoted text.reverse]) [c]
  | _ => .plain [] [c]

/-- Whether the cutting stands inside quotes. -/
def inside : Cutting → Bool
  | .quoted _ _ => true
  | _ => false

end Cutting

/-- Cuts the rest of a line from a given state. -/
def cutFrom : Cutting → List Char → Except Error (List (List Chunk))
  | .quoted _ _, [] => .error .unterminated
  | .quoted chunks text, c :: rest =>
    if c == quote then cutFrom (.closed chunks text) rest else cutFrom (.quoted chunks (c :: text)) rest
  | s, [] => .ok s.finish
  | s, c :: rest =>
    if c == commentMark then .ok s.finish
    else if isSeparator c then (cutFrom .idle rest).map (s.finish ++ ·)
    else if c == quote then cutFrom s.opened rest
    else cutFrom (s.push c) rest

/-- The arguments of a line by their chunks. -/
def cut (line : List Char) : Except Error (List (List Chunk)) := cutFrom .idle line

section Cutting

variable {s : Cutting} {c : Char}

/-- Text that can stand outside quotes. -/
def IsBare (text : List Char) : Prop := ∀ c ∈ text, isSeparator c = false ∧ c ≠ quote ∧ c ≠ commentMark

/-- What a character outside quotes does: it begins a comment, ends an argument, begins quotes, or belongs to an argument. -/
theorem char_cases (c : Char) : c = commentMark ∨ isSeparator c = true ∨ c = quote ∨ IsBare [c] := by
  simp only [IsBare, List.mem_singleton, forall_eq]
  rcases hsep : isSeparator c <;> tauto

theorem ne_of_isSeparator (h : isSeparator c = true) : c ≠ quote ∧ c ≠ commentMark := by
  constructor <;>
  · rintro rfl
    cases h

theorem cutFrom_nil (h : s.inside = false) : cutFrom s [] = .ok s.finish := by
  cases s <;> first | rfl | cases h

theorem cutFrom_comment (h : s.inside = false) (rest : List Char) : cutFrom s (commentMark :: rest) = .ok s.finish := by
  cases s <;> first | rfl | cases h

theorem cutFrom_separator (h : s.inside = false) (hc : isSeparator c = true) (rest : List Char) :
    cutFrom s (c :: rest) = (cutFrom .idle rest).map (s.finish ++ ·) := by
  have hnot := (ne_of_isSeparator hc).2
  cases s <;> simp_all [cutFrom, Cutting.inside]

@[simp] theorem Cutting.inside_opened (s : Cutting) : s.opened.inside = true := by cases s <;> rfl

@[simp] theorem Cutting.inside_push (s : Cutting) (c : Char) : (s.push c).inside = false := by cases s <;> rfl

theorem cutFrom_quote (h : s.inside = false) (rest : List Char) : cutFrom s (quote :: rest) = cutFrom s.opened rest := by
  cases s <;> first | rfl | cases h

theorem cutFrom_push (h : s.inside = false) (hc : IsBare [c]) (rest : List Char) :
    cutFrom s (c :: rest) = cutFrom (s.push c) rest := by
  obtain ⟨hsep, hquote, hcomment⟩ := hc c List.mem_cons_self
  cases s <;> simp_all [cutFrom, Cutting.inside]

theorem cutFrom_quoted_quote (chunks : List Chunk) (text rest : List Char) :
    cutFrom (.quoted chunks text) (quote :: rest) = cutFrom (.closed chunks text) rest := rfl

theorem cutFrom_quoted_cons (hc : c ≠ quote) (chunks : List Chunk) (text rest : List Char) :
    cutFrom (.quoted chunks text) (c :: rest) = cutFrom (.quoted chunks (c :: text)) rest := by
  rw [cutFrom, if_neg (by simpa using hc)]

theorem cutFrom_quoted_doubled (chunks : List Chunk) (text rest : List Char) :
    cutFrom (.quoted chunks text) (quote :: quote :: rest) = cutFrom (.quoted chunks (quote :: text)) rest := rfl

/-- Behind quotes that nothing reopens an unquoted chunk begins. -/
theorem cutFrom_closed {chunks : List Chunk} {text line : List Char} (h : line.head? ≠ some quote) :
    cutFrom (.closed chunks text) line = cutFrom (.plain (chunks ++ [.quoted text.reverse]) []) line := by
  cases line with
  | nil => simp [cutFrom, Cutting.finish]
  | cons c rest =>
    have hc : (c == quote) = false := by simpa using h
    simp [cutFrom, Cutting.finish, Cutting.push, hc]

end Cutting

/-! ## The reader cuts as `cut` does -/

section Reading

variable {expand : List Char → List Char}

/-- Where the reader stands when the cutting of the line stands somewhere: its text is what the chunks come to. Inside quotes
the reader may have handed over a part of the current chunk. -/
inductive Stands (expand : List Char → List Char) : State → Cutting → Prop
  | idle : Stands expand .idle .idle
  | plain (chunks : List Chunk) (text : List Char) : Stands expand (.plain (value expand chunks) text) (.plain chunks text)
  | quoted {before chunk text : List Char} {chunks : List Chunk}
      (h : before ++ chunk.reverse = value expand chunks ++ text.reverse) :
      Stands expand (.quoted before chunk) (.quoted chunks text)

variable {s : State} {c : Cutting}

theorem Stands.finish (h : Stands expand s c) : s.finish expand = c.finish.map (value expand) := by
  cases h <;> simp [State.finish, Cutting.finish, Chunk.value]

theorem Stands.opened (h : Stands expand s c) (hout : c.inside = false) :
    Stands expand (.quoted (s.textSoFar expand) []) c.opened := by
  cases h with
  | idle => exact .quoted rfl
  | plain chunks text => exact .quoted (by simp [State.textSoFar, Chunk.value])
  | quoted h => cases hout

theorem Stands.push (h : Stands expand s c) (hout : c.inside = false) (d : Char) :
    Stands expand (s.push d) (c.push d) := by
  cases h with
  | idle => exact .plain [] [d]
  | plain chunks text => exact .plain chunks (d :: text)
  | quoted h => cases hout

/-- Outside quotes the reader looks at one character. -/
theorem Stands.read_cons (h : Stands expand s c) (hout : c.inside = false) (d : Char) (rest : List Char) :
    read expand s (d :: rest) =
      if d == commentMark then .ok (s.finish expand)
      else if isSeparator d then (read expand .idle rest).map (s.finish expand ++ ·)
      else if d == quote then read expand (.quoted (s.textSoFar expand) []) rest
      else read expand (s.push d) rest := by
  have hs : ∀ text chunk, s ≠ .quoted text chunk := by
    rintro text chunk rfl
    cases h
    cases hout
  rw [read.eq_5 _ _ _ _ hs]
  cases read expand .idle rest <;> rfl

/-- Inside quotes all but a quote is taken as it is. -/
theorem read_quoted_cons {d : Char} (h : d ≠ quote) (before chunk rest : List Char) :
    read expand (.quoted before chunk) (d :: rest) = read expand (.quoted before (d :: chunk)) rest := by
  cases rest <;> simp [read, h]

/-- The reader says what the cutting says, with every chunk spelled out. Inside quotes it looks two characters ahead, so
that it stands in front of a quote there is a case of its own. -/
theorem read_eq_cutFrom (line : List Char) :
    (∀ s c, Stands expand s c → read expand s line = (cutFrom c line).map (List.map (value expand))) ∧
    ∀ before chunk chunks text, before ++ chunk.reverse = value expand chunks ++ text.reverse →
      read expand (.quoted before chunk) (quote :: line) =
        (cutFrom (.closed chunks text) line).map (List.map (value expand)) := by
  induction line with
  | nil =>
    refine ⟨fun s c h => ?_, fun before chunk chunks text h => ?_⟩
    · cases h <;> simp [read, cutFrom, State.finish, Cutting.finish, Chunk.value, Except.map]
    · simp [read, cutFrom, State.finish, Cutting.finish, Chunk.value, Except.map, h]
  | cons d rest ih =>
    obtain ⟨ihstands, ihclosed⟩ := ih
    have houtside : ∀ s c, Stands expand s c → c.inside = false →
        read expand s (d :: rest) = (cutFrom c (d :: rest)).map (List.map (value expand)) := by
      intro s c h hout
      rw [h.read_cons hout]
      rcases char_cases d with rfl | hsep | rfl | hbare
      · rw [if_pos (by rfl), cutFrom_comment hout, h.finish]
        rfl
      · rw [if_neg (by simpa using (ne_of_isSeparator hsep).2), if_pos hsep, cutFrom_separator hout hsep, ihstands _ _ .idle,
          h.finish]
        cases cutFrom .idle rest <;> simp [Except.map]
      · rw [cutFrom_quote hout, ← ihstands _ _ (h.opened hout)]
        rfl
      · obtain ⟨hsep, hquote, hcomment⟩ := hbare d List.mem_cons_self
        rw [cutFrom_push hout hbare, ← ihstands _ _ (h.push hout d)]
        simp [hsep, hquote, hcomment]
    refine ⟨fun s c h => ?_, fun before chunk chunks text h => ?_⟩
    · cases h with
      | idle => exact houtside _ _ .idle rfl
      | plain chunks text => exact houtside _ _ (.plain chunks text) rfl
      | @quoted before chunk text chunks h =>
        by_cases hd : d = quote
        · subst hd
          rw [ihclosed _ _ _ _ h, cutFrom_quoted_quote]
        · have hnext : Stands expand (.quoted before (d :: chunk)) (.quoted chunks (d :: text)) :=
            .quoted (by simp [← List.append_assoc, h])
          rw [read_quoted_cons hd, ihstands _ _ hnext, cutFrom_quoted_cons hd]
    · by_cases hd : d = quote
      · subst hd
        have hnext : Stands expand (.quoted (before ++ chunk.reverse) [quote]) (.quoted chunks (quote :: text)) :=
          .quoted (by simp [h])
        rw [cutFrom_quote rfl]
        simpa [read, Cutting.opened] using ihstands _ _ hnext
      · have hnot : (d == quote) = false := by simpa using hd
        have hplain := houtside _ _ (.plain (chunks ++ [.quoted text.reverse]) []) rfl
        rw [cutFrom_closed (by simpa using hd), ← hplain]
        simp [read, hnot, h, Chunk.value]

end Reading

/-! ## The layout of a line -/

/-- The chunks of an argument as far as they go: unquoted ones alternate with quoted ones, and the last is unquoted. It may
be empty behind quotes, but then no more quotes follow, because they would go on with those in front. -/
inductive Alternates : List Chunk → Prop
  | nil : Alternates []
  | plain {text : List Char} (hne : text ≠ []) (h : IsBare text) : Alternates [.plain text]
  | quoted {chunks : List Chunk} {after : List Char} (h : Alternates chunks) (hfull : .plain [] ∉ chunks) (text : List Char)
      (hafter : IsBare after) : Alternates (chunks ++ [.quoted text, .plain after])

/-- What may stand behind an argument: the end of the line, a separator, or the mark of a comment. -/
def EndsWord (rest : List Char) : Prop := ∀ c ∈ rest.head?, isSeparator c = true ∨ c = commentMark

/-- A line is laid out as arguments: they stand one behind the other with separators between them, and at the end there may
be a comment. -/
inductive LaidOut : List Char → List (List Chunk) → Prop
  | nil : LaidOut [] []
  | comment (rest : List Char) : LaidOut (commentMark :: rest) []
  | separator {c : Char} {rest : List Char} {args : List (List Chunk)} (hc : isSeparator c = true) (h : LaidOut rest args) :
      LaidOut (c :: rest) args
  | argument {chunks : List Chunk} {rest : List Char} {args : List (List Chunk)} (hne : chunks ≠ [])
      (hchunks : Alternates chunks) (hends : EndsWord rest) (h : LaidOut rest args) :
      LaidOut (written chunks ++ rest) (chunks :: args)

/-- What has been read of the current argument. -/
def Cutting.written : Cutting → List Char
  | .idle => []
  | .plain chunks text => Words.written chunks ++ text.reverse
  | .quoted chunks text => Words.written chunks ++ quote :: doubled text.reverse
  | .closed chunks text => Words.written chunks ++ quote :: (doubled text.reverse ++ [quote])

/-- The chunks so far are chunks of an argument. -/
def Cutting.Sound : Cutting → Prop
  | .idle => True
  | .plain chunks text => IsBare text ∧ text ≠ [] ∧
      (chunks = [] ∨ ∃ front inner, chunks = front ++ [.quoted inner] ∧ Alternates front ∧ .plain [] ∉ front)
  | .quoted chunks _ => Alternates chunks ∧ .plain [] ∉ chunks
  | .closed chunks _ => Alternates chunks ∧ .plain [] ∉ chunks

theorem IsBare.reverse {text : List Char} (h : IsBare text) : IsBare text.reverse := fun c hc => h c (List.mem_reverse.mp hc)

theorem isBare_cons {c : Char} {text : List Char} : IsBare (c :: text) ↔ IsBare [c] ∧ IsBare text := by
  simp [IsBare]

/-- Where an argument can end, it is one. -/
theorem Cutting.Sound.finish {s : Cutting} (h : s.Sound) (hout : s.inside = false) :
    s.finish = [] ∧ s.written = [] ∨
      ∃ chunks, s.finish = [chunks] ∧ s.written = Words.written chunks ∧ chunks ≠ [] ∧ Alternates chunks := by
  cases s with
  | idle => exact .inl ⟨rfl, rfl⟩
  | plain chunks text =>
    refine .inr ⟨_, rfl, by simp [Cutting.written, Chunk.written], by simp, ?_⟩
    obtain ⟨hbare, hne, rfl | ⟨front, inner, rfl, hfront, hfull⟩⟩ := h
    · exact .plain (by simpa using hne) hbare.reverse
    · simpa using hfront.quoted hfull inner hbare.reverse
  | quoted chunks text => cases hout
  | closed chunks text =>
    exact .inr ⟨_, rfl, by simp [Cutting.written, Chunk.written], by simp, .quoted h.1 h.2 _ (by simp [IsBare])⟩

theorem Cutting.Sound.opened {s : Cutting} (h : s.Sound) (hout : s.inside = false) :
    s.opened.Sound ∧ s.opened.written = s.written ++ [quote] := by
  cases s with
  | idle => exact ⟨⟨.nil, List.not_mem_nil⟩, rfl⟩
  | plain chunks text =>
    obtain ⟨hempty, -⟩ | ⟨chunks', hfinish, -, -, halt⟩ := h.finish hout
    · cases hempty
    · cases hfinish
      refine ⟨⟨halt, ?_⟩, by simp [Cutting.opened, Cutting.written, Chunk.written]⟩
      obtain ⟨-, hne, rfl | ⟨front, inner, rfl, -, hfull⟩⟩ := h <;> simp_all
  | quoted chunks text => cases hout
  | closed chunks text => exact ⟨h, by simp [Cutting.opened, Cutting.written]⟩

theorem Cutting.Sound.push {s : Cutting} {c : Char} (h : s.Sound) (hout : s.inside = false) (hc : IsBare [c]) :
    (s.push c).Sound ∧ (s.push c).written = s.written ++ [c] := by
  cases s with
  | idle => exact ⟨⟨hc, List.cons_ne_nil _ _, .inl rfl⟩, rfl⟩
  | plain chunks text =>
    obtain ⟨hbare, -, hchunks⟩ := h
    refine ⟨⟨isBare_cons.mpr ⟨hc, hbare⟩, List.cons_ne_nil _ _, hchunks⟩, ?_⟩
    simp [Cutting.push, Cutting.written]
  | quoted chunks text => cases hout
  | closed chunks text =>
    exact ⟨⟨hc, List.cons_ne_nil _ _, .inr ⟨_, _, rfl, h⟩⟩, by simp [Cutting.push, Cutting.written, Chunk.written]⟩

theorem LaidOut.finish {s : Cutting} {rest : List Char} {args : List (List Chunk)} (h : LaidOut rest args)
    (hends : EndsWord rest) (hs : s.Sound) (hout : s.inside = false) :
    LaidOut (s.written ++ rest) (s.finish ++ args) := by
  obtain ⟨hfinish, hwritten⟩ | ⟨chunks, hfinish, hwritten, hne, halt⟩ := hs.finish hout
  · rw [hfinish, hwritten]
    exact h
  · rw [hfinish, hwritten]
    exact .argument hne halt hends h

/-- What the cutting says is how the line is laid out. -/
theorem cutFrom_sound {line : List Char} : ∀ {s : Cutting} {args : List (List Chunk)}, s.Sound →
    cutFrom s line = .ok args → LaidOut (s.written ++ line) args := by
  induction line with
  | nil =>
    intro s args hs h
    cases hin : s.inside with
    | false =>
      rw [cutFrom_nil hin] at h
      cases h
      simpa using LaidOut.nil.finish (by simp [EndsWord]) hs hin
    | true =>
      cases s <;> cases hin
      cases h
  | cons c rest ih =>
    intro s args hs h
    cases hin : s.inside with
    | true =>
      cases s <;> cases hin
      next chunks text =>
        by_cases hc : c = quote
        · subst hc
          rw [cutFrom_quoted_quote] at h
          simpa [Cutting.written] using ih (s := .closed chunks text) hs h
        · rw [cutFrom_quoted_cons hc] at h
          simpa [Cutting.written, hc] using ih (s := .quoted chunks (c :: text)) hs h
    | false =>
      rcases char_cases c with rfl | hsep | rfl | hbare
      · rw [cutFrom_comment hin] at h
        cases h
        simpa using (LaidOut.comment rest).finish (by simp [EndsWord]) hs hin
      · rw [cutFrom_separator hin hsep] at h
        cases hrest : cutFrom .idle rest with
        | error e =>
          rw [hrest] at h
          cases h
        | ok more =>
          rw [hrest] at h
          cases h
          have hmore : LaidOut rest more := ih (s := .idle) trivial hrest
          exact (LaidOut.separator hsep hmore).finish (by simp [EndsWord, hsep]) hs hin
      · rw [cutFrom_quote hin] at h
        obtain ⟨hopened, hwritten⟩ := hs.opened hin
        simpa [hwritten] using ih hopened h
      · rw [cutFrom_push hin hbare] at h
        obtain ⟨hpushed, hwritten⟩ := hs.push hin hbare
        simpa [hwritten] using ih hpushed h

/-- The state behind the chunks of an argument. -/
def Cutting.behind (chunks : List Chunk) : Cutting :=
  match chunks.getLast? with
  | some (.plain text) => .plain chunks.dropLast text.reverse
  | _ => .idle

@[simp] theorem Cutting.behind_append_plain (front : List Chunk) (text : List Char) :
    Cutting.behind (front ++ [.plain text]) = .plain front text.reverse := by
  simp [Cutting.behind]

theorem Alternates.behind {chunks : List Chunk} (h : Alternates chunks) :
    chunks = [] ∧ Cutting.behind chunks = .idle ∨
      ∃ front text, chunks = front ++ [.plain text] ∧ Cutting.behind chunks = .plain front text.reverse := by
  cases h with
  | nil => exact .inl ⟨rfl, rfl⟩
  | plain hne h => exact .inr ⟨[], _, rfl, rfl⟩
  | @quoted chunks after h hfull text hafter =>
    have heq : chunks ++ [.quoted text, .plain after] = (chunks ++ [.quoted text]) ++ [.plain after] := by simp
    exact .inr ⟨_, _, heq, by rw [heq, Cutting.behind_append_plain]⟩

theorem cutFrom_append_bare {chunks : List Chunk} {text before : List Char} (h : IsBare text) (rest : List Char) :
    cutFrom (.plain chunks before) (text ++ rest) = cutFrom (.plain chunks (text.reverse ++ before)) rest := by
  induction text generalizing before with
  | nil => rfl
  | cons c text ih =>
    obtain ⟨hc, htext⟩ := isBare_cons.mp h
    rw [List.cons_append, cutFrom_push rfl hc, Cutting.push, ih htext, List.reverse_cons, List.append_assoc]
    rfl

theorem cutFrom_append_doubled (chunks : List Chunk) (text before rest : List Char) :
    cutFrom (.quoted chunks before) (doubled text ++ rest) = cutFrom (.quoted chunks (text.reverse ++ before)) rest := by
  induction text generalizing before with
  | nil => rfl
  | cons c text ih =>
    by_cases hc : c = quote
    · subst hc
      simpa [cutFrom_quoted_doubled] using ih (quote :: before)
    · simpa [cutFrom_quoted_cons hc, hc] using ih (c :: before)

theorem EndsWord.head?_ne_quote {rest : List Char} (h : EndsWord rest) : rest.head? ≠ some quote := by
  intro hquote
  rcases h quote hquote with hc | hc <;> cases hc

/-- An argument is cut into its chunks. -/
theorem cutFrom_written {chunks : List Chunk} (h : Alternates chunks) :
    ∀ rest, EndsWord rest ∨ .plain [] ∉ chunks →
      cutFrom .idle (written chunks ++ rest) = cutFrom (.behind chunks) rest := by
  induction h with
  | nil => exact fun _ _ => rfl
  | @plain text hne h =>
    intro rest _
    cases text with
    | nil => exact absurd rfl hne
    | cons c text =>
      obtain ⟨hc, htext⟩ := isBare_cons.mp h
      calc cutFrom .idle (written [.plain (c :: text)] ++ rest) = cutFrom .idle (c :: (text ++ rest)) := by
            simp [Chunk.written]
        _ = cutFrom (.plain [] [c]) (text ++ rest) := cutFrom_push rfl hc _
        _ = cutFrom (.plain [] (text.reverse ++ [c])) rest := cutFrom_append_bare htext rest
        _ = cutFrom (.behind [.plain (c :: text)]) rest := by simp [Cutting.behind]
  | @quoted chunks after h hfull text hafter ih =>
    intro rest hrest
    have hopened : (Cutting.behind chunks).inside = false ∧ (Cutting.behind chunks).opened = .quoted chunks [] := by
      obtain ⟨rfl, hbehind⟩ | ⟨front, last, rfl, hbehind⟩ := h.behind <;> rw [hbehind] <;>
        simp [Cutting.opened, Cutting.inside]
    have hhead : (after ++ rest).head? ≠ some quote := by
      cases after with
      | nil => exact (hrest.resolve_right fun hnot => hnot (by simp)).head?_ne_quote
      | cons c after => simpa using (hafter c List.mem_cons_self).2.1
    have hbehind : Cutting.behind (chunks ++ [.quoted text, .plain after]) =
        .plain (chunks ++ [.quoted text]) after.reverse := by
      rw [← Cutting.behind_append_plain]
      simp
    calc cutFrom .idle (written (chunks ++ [.quoted text, .plain after]) ++ rest)
        = cutFrom .idle (written chunks ++ quote :: (doubled text ++ quote :: (after ++ rest))) := by simp [Chunk.written]
      _ = cutFrom (.behind chunks) (quote :: (doubled text ++ quote :: (after ++ rest))) := ih _ (.inr hfull)
      _ = cutFrom (.quoted chunks []) (doubled text ++ quote :: (after ++ rest)) := by
          rw [cutFrom_quote hopened.1, hopened.2]
      _ = cutFrom (.closed chunks text.reverse) (after ++ rest) := by simp [cutFrom_append_doubled, cutFrom_quoted_quote]
      _ = cutFrom (.plain (chunks ++ [.quoted text]) []) (after ++ rest) := by
          rw [cutFrom_closed hhead, List.reverse_reverse]
      _ = cutFrom (.behind (chunks ++ [.quoted text, .plain after])) rest := by
          rw [cutFrom_append_bare hafter, List.append_nil, hbehind]

/-- Where an argument ends it is put in front of the others. -/
theorem cutFrom_endsWord {s : Cutting} {rest : List Char} (hout : s.inside = false) (h : EndsWord rest) :
    cutFrom s rest = (cutFrom .idle rest).map (s.finish ++ ·) := by
  cases rest with
  | nil =>
    rw [cutFrom_nil hout, cutFrom_nil rfl]
    simp [Except.map, Cutting.finish]
  | cons c rest =>
    obtain hc | rfl := h c rfl
    · rw [cutFrom_separator hout hc, cutFrom_separator rfl hc]
      cases cutFrom .idle rest <;> rfl
    · rw [cutFrom_comment hout, cutFrom_comment rfl]
      simp [Except.map, Cutting.finish]

/-- However a line is laid out, the cutting says so. -/
theorem cut_complete {line : List Char} {args : List (List Chunk)} (h : LaidOut line args) : cut line = .ok args := by
  induction h with
  | nil => rfl
  | comment rest => rfl
  | separator hc _ ih =>
    rw [cut] at ih ⊢
    rw [cutFrom_separator rfl hc, ih]
    rfl
  | @argument chunks rest args hne hchunks hends _ ih =>
    obtain ⟨hnil, -⟩ | ⟨front, text, rfl, hbehind⟩ := hchunks.behind
    · exact absurd hnil hne
    rw [cut] at ih ⊢
    rw [cutFrom_written hchunks rest (.inl hends), hbehind, cutFrom_endsWord rfl hends, ih]
    simp [Except.map, Cutting.finish]

/-- **The cut of a line is its layout.** -/
theorem cut_eq_ok_iff {line : List Char} {args : List (List Chunk)} : cut line = .ok args ↔ LaidOut line args :=
  ⟨cutFrom_sound (s := .idle) trivial, cut_complete⟩

/-! ## Lines that cannot be cut -/

/-- Whether the place behind a part of a line is inside quotes, when the place in front of it is or is not. -/
def IsInside (inside : Bool) (front : List Char) : Prop := Odd (front.count quote + inside.toNat)

@[simp] theorem isInside_nil {inside : Bool} : IsInside inside [] ↔ inside = true := by cases inside <;> simp [IsInside]

@[simp] theorem isInside_quote {inside : Bool} {front : List Char} :
    IsInside inside (quote :: front) ↔ IsInside (!inside) front := by
  cases inside <;> simp [IsInside, Nat.odd_add_one]

theorem isInside_cons {inside : Bool} {c : Char} (hc : c ≠ quote) {front : List Char} :
    IsInside inside (c :: front) ↔ IsInside inside front := by
  rw [IsInside, List.count_cons_of_ne hc, IsInside]

theorem isInside_false {front : List Char} : IsInside false front ↔ Odd (front.count quote) := Iff.rfl

/-- What stands in front of the comment of a line, from a place inside quotes or outside. -/
def uncommentedFrom (inside : Bool) : List Char → List Char
  | [] => []
  | c :: rest =>
    if c == commentMark && !inside then [] else c :: uncommentedFrom (if c == quote then !inside else inside) rest

theorem uncommentedFrom_quote (inside : Bool) (rest : List Char) :
    uncommentedFrom inside (quote :: rest) = quote :: uncommentedFrom (!inside) rest := by
  cases inside <;> rfl

theorem uncommentedFrom_cons {inside : Bool} {c : Char} (hc : c ≠ quote) (h : c ≠ commentMark ∨ inside = true)
    (rest : List Char) : uncommentedFrom inside (c :: rest) = c :: uncommentedFrom inside rest := by
  have hquote : (c == quote) = false := by simpa using hc
  rw [uncommentedFrom, if_neg (by rcases h with h | rfl <;> simp [*]), hquote]
  rfl

/-- Nothing but quotes that are left open keeps a line from being cut. -/
theorem cutFrom_eq_error_iff {line : List Char} {s : Cutting} :
    cutFrom s line = .error .unterminated ↔ IsInside s.inside (uncommentedFrom s.inside line) := by
  induction line generalizing s with
  | nil =>
    cases hin : s.inside with
    | false => simp [cutFrom_nil hin, uncommentedFrom]
    | true =>
      cases s <;> cases hin
      simp [cutFrom, uncommentedFrom]
  | cons c rest ih =>
    cases hin : s.inside with
    | true =>
      cases s <;> cases hin
      next chunks text =>
        by_cases hc : c = quote
        · subst hc
          rw [cutFrom_quoted_quote, ih, uncommentedFrom_quote, isInside_quote]
          rfl
        · rw [cutFrom_quoted_cons hc, ih, uncommentedFrom_cons hc (.inr rfl), isInside_cons hc]
          rfl
    | false =>
      rcases char_cases c with rfl | hsep | rfl | hbare
      · simp [cutFrom_comment hin, uncommentedFrom]
      · obtain ⟨hquote, hcomment⟩ := ne_of_isSeparator hsep
        rw [cutFrom_separator hin hsep, uncommentedFrom_cons hquote (.inl hcomment), isInside_cons hquote]
        refine Iff.trans ?_ (ih (s := .idle))
        cases cutFrom .idle rest <;> simp [Except.map]
      · rw [cutFrom_quote hin, ih, Cutting.inside_opened, uncommentedFrom_quote, isInside_quote]
        rfl
      · obtain ⟨-, hquote, hcomment⟩ := hbare c List.mem_cons_self
        rw [cutFrom_push hin hbare, ih, Cutting.inside_push, uncommentedFrom_cons hquote (.inl hcomment),
          isInside_cons hquote]

/-- Where a comment begins: at a number sign outside quotes, none of which is further in front. -/
structure IsUncommented (inside : Bool) (front line : List Char) : Prop where
  ends : front = line ∨ ∃ comment, line = front ++ commentMark :: comment ∧ ¬IsInside inside front
  first : ∀ before after, front = before ++ commentMark :: after → IsInside inside before

theorem IsUncommented.cons {inside inside' : Bool} {c : Char} {front line : List Char}
    (h : IsUncommented inside' front line) (hinside : ∀ before, IsInside inside (c :: before) ↔ IsInside inside' before)
    (hc : c = commentMark → inside = true) : IsUncommented inside (c :: front) (c :: line) where
  ends := by
    obtain rfl | ⟨comment, rfl, hout⟩ := h.ends
    · exact .inl rfl
    · exact .inr ⟨comment, rfl, by rwa [hinside]⟩
  first before after heq := by
    cases before with
    | nil =>
      rw [List.nil_append, List.cons.injEq] at heq
      exact isInside_nil.mpr (hc heq.1)
    | cons d before =>
      rw [List.cons_append, List.cons.injEq] at heq
      obtain ⟨rfl, heq⟩ := heq
      exact (hinside before).mpr (h.first before after heq)

theorem isUncommented_uncommentedFrom (inside : Bool) (line : List Char) :
    IsUncommented inside (uncommentedFrom inside line) line := by
  induction line generalizing inside with
  | nil => exact ⟨.inl rfl, by simp [uncommentedFrom]⟩
  | cons c rest ih =>
    by_cases hquote : c = quote
    · subst hquote
      rw [uncommentedFrom_quote]
      exact (ih _).cons (fun _ => isInside_quote) nofun
    by_cases hcomment : c = commentMark ∧ inside = false
    · obtain ⟨rfl, rfl⟩ := hcomment
      exact ⟨.inr ⟨rest, rfl, by simp [uncommentedFrom]⟩, by simp [uncommentedFrom]⟩
    · have hnot : c = commentMark → inside = true := fun h => by simpa [h] using hcomment
      rw [uncommentedFrom_cons hquote (by tauto)]
      exact (ih _).cons (fun _ => isInside_cons hquote) hnot

/-! ## Splitting -/

/-- The argument that chunks come to. -/
def spell (expand : String → String) (chunks : List Chunk) : String :=
  String.ofList (value (fun text => (expand (String.ofList text)).toList) chunks)

/-- Splitting a line is cutting it and spelling every argument out. -/
theorem split_eq_cut (expand : String → String) (line : String) :
    split expand line = (cut line.toList).map (List.map (spell expand)) := by
  rw [split, (read_eq_cutFrom line.toList).1 _ _ .idle, cut]
  cases cutFrom .idle line.toList with
  | error e => rfl
  | ok args => simp [Except.map, spell, Function.comp_def]

/-- **What variables hold cuts nothing.** How a line is laid out depends on the line alone. Whatever the expansion, each
argument is its chunks one behind the other, the quoted ones as they are and each unquoted one expanded once, so there are as
many arguments. No line is refused but one that leaves a quote open in front of its comment. -/
theorem expansion_never_cuts (line : String) :
    (∀ expand, split expand line = (cut line.toList).map (List.map (spell expand))) ∧
      (∀ args, cut line.toList = .ok args ↔ LaidOut line.toList args) ∧
      (∀ expand expand', (split expand line).map List.length = (split expand' line).map List.length) ∧
      ∃ front, IsUncommented false front line.toList ∧
        ∀ expand, split expand line = .error .unterminated ↔ Odd (front.count quote) := by
  refine ⟨fun expand => split_eq_cut expand line, fun args => cut_eq_ok_iff, fun expand expand' => ?_,
    uncommentedFrom false line.toList, isUncommented_uncommentedFrom false _, fun expand => ?_⟩
  · rw [split_eq_cut, split_eq_cut]
    cases cut line.toList <;> simp [Except.map]
  · have hcut : cut line.toList = .error .unterminated ↔ IsInside false (uncommentedFrom false line.toList) :=
      cutFrom_eq_error_iff (s := .idle)
    rw [split_eq_cut, ← isInside_false, ← hcut]
    cases cut line.toList <;> simp [Except.map]

/-- A variable is expanded outside quotes only, and what it holds is taken as it is. -/
example : split (fun text => if text = "$a" then "'b c' #" else text) "say 'don''t $a'$a # $a" =
    .ok ["say", "don't $a'b c' #"] := by cbv

/-! ## Quoting arguments -/

/-- A word in quotes. -/
def inQuotes (word : String) : String := String.ofList (Chunk.quoted word.toList).written

/-- A line of words in quotes, each behind a gap, in front of an ending. -/
def quotedLine (words : List (String × String)) (ending : String) : String :=
  words.foldr (fun (gap, word) rest => gap ++ inQuotes word ++ rest) ending

@[simp] theorem toList_quotedLine_cons (gap word : String) (words : List (String × String)) (ending : String) :
    (quotedLine ((gap, word) :: words) ending).toList =
      gap.toList ++ (Chunk.quoted word.toList).written ++ (quotedLine words ending).toList := by
  simp [quotedLine, inQuotes]

theorem LaidOut.gap {gap rest : List Char} {args : List (List Chunk)} (h : LaidOut rest args)
    (hgap : ∀ c ∈ gap, isSeparator c = true) : LaidOut (gap ++ rest) args := by
  induction gap with
  | nil => exact h
  | cons c gap ih =>
    rw [List.forall_mem_cons] at hgap
    exact .separator hgap.1 (ih hgap.2)

theorem EndsWord.gap {gap : List Char} (hgap : ∀ c ∈ gap, isSeparator c = true) {rest : List Char}
    (h : gap ≠ [] ∨ EndsWord rest) : EndsWord (gap ++ rest) := by
  cases gap with
  | nil => exact h.resolve_left (fun hne => hne rfl)
  | cons c gap => simp [EndsWord, hgap c List.mem_cons_self]

/-- Words in quotes are laid out as one quoted chunk each, with nothing behind it. -/
theorem laidOut_quoted {ending : String} (hending : LaidOut ending.toList []) (hends : EndsWord ending.toList)
    {words : List (String × String)} (hgaps : ∀ w ∈ words, ∀ c ∈ w.1.toList, isSeparator c = true)
    (happart : ∀ w ∈ words.tail, w.1 ≠ "") :
    LaidOut (quotedLine words ending).toList (words.map fun w => [.quoted w.2.toList, .plain []]) := by
  induction words with
  | nil => exact hending
  | cons w words ih =>
    obtain ⟨gap, word⟩ := w
    rw [List.forall_mem_cons] at hgaps
    have hrest := ih hgaps.2 fun w hw => happart w (List.mem_of_mem_tail hw)
    have hbehind : EndsWord (quotedLine words ending).toList := by
      cases words with
      | nil => exact hends
      | cons next words =>
        obtain ⟨gap', word'⟩ := next
        have hne : gap'.toList ≠ [] := by simpa using happart _ List.mem_cons_self
        rw [toList_quotedLine_cons, List.append_assoc]
        exact .gap (hgaps.2 _ List.mem_cons_self) (.inl hne)
    have hword : Alternates ([] ++ [.quoted word.toList, .plain []]) :=
      .quoted .nil List.not_mem_nil _ (by simp [IsBare])
    have harg := LaidOut.argument (by simp) hword hbehind hrest
    simpa [Chunk.written] using harg.gap hgaps.1

/-- **Arguments in quotes come back.** With every quote doubled, any text is one argument again, and a comment may follow. -/
theorem split_quotedLine {expand : String → String} (hexpand : expand "" = "") {words : List (String × String)}
    (hgaps : ∀ w ∈ words, ∀ c ∈ w.1.toList, isSeparator c = true) (happart : ∀ w ∈ words.tail, w.1 ≠ "")
    {gap comment : String} (hgap : ∀ c ∈ gap.toList, isSeparator c = true)
    (hcomment : comment = "" ∨ comment.toList.head? = some commentMark) :
    split expand (quotedLine words (gap ++ comment)) = .ok (words.map Prod.snd) := by
  have hlaid : LaidOut comment.toList [] ∧ EndsWord comment.toList := by
    obtain rfl | hmark := hcomment
    · exact ⟨.nil, by simp [EndsWord]⟩
    · obtain ⟨rest, hrest⟩ := List.head?_eq_some_iff.mp hmark
      rw [hrest]
      exact ⟨.comment rest, by simp [EndsWord]⟩
  have hending : LaidOut (gap ++ comment).toList [] ∧ EndsWord (gap ++ comment).toList := by
    rw [String.toList_append]
    exact ⟨hlaid.1.gap hgap, .gap hgap (.inr hlaid.2)⟩
  have hspell : ∀ word : String, spell expand [.quoted word.toList, .plain []] = word := by
    simp [spell, Chunk.value, hexpand]
  rw [split_eq_cut, cut_complete (laidOut_quoted hending.1 hending.2 hgaps happart)]
  simp [Except.map, Function.comp_def, hspell]

/-- Quotes, blanks, number signs, dollar signs and nothing at all come back from their quotes. -/
theorem split_quotedLine_mixed :
    quotedLine [("", "'a' $x"), (" \r", "# \t'"), (" ", "")] ("\t" ++ "# 'more") = "'''a'' $x' \r'# \t''' ''\t# 'more" ∧
      split (fun text => text ++ text) (quotedLine [("", "'a' $x"), (" \r", "# \t'"), (" ", "")] ("\t" ++ "# 'more")) =
        .ok ["'a' $x", "# \t'", ""] :=
  ⟨by decide, split_quotedLine rfl (by simp [isSeparator]) (by simp) (by simp [isSeparator]) (.inr rfl)⟩

end Rehearsal.Words
