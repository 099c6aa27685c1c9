import StagedScript.Proofs.Script.Reading

/-!
# Rules for parsers

A parser reads a language if whatever it takes off the front of the tokens is a word of that
language, with the value that the parser hands out. A parser accepts a word before certain next
tokens if it takes exactly the word and hands out its value. Each of the two has one rule for each
way to build a parser, so that words are put together as parsers are.

Loops are given as many turns as there are tokens left. Where a rule says how many tokens are left
after a step, this is what the next turn of a loop needs.
-/

namespace StagedScript
namespace Script
namespace Parse

variable {α β : Type}

/-- Whatever a parser takes off at most so many tokens is a word of a language. -/
def Reads (bound : Nat) (p : Parse α) (language : List Token → α → Prop) : Prop :=
  ∀ ts a rest, EndsOnce ts → ts.length ≤ bound → Yields p ts a rest →
    ∃ word, ts = word ++ rest ∧ EndsOnce rest ∧ language (tokensOf word) a

/-- The same, where the first of the tokens is known. -/
def ReadsAt (t : Token) (bound : Nat) (p : Parse α) (language : List Token → α → Prop) : Prop :=
  ∀ ts a rest, headToken ts = t → EndsOnce ts → ts.length ≤ bound → Yields p ts a rest →
    ∃ word, ts = word ++ rest ∧ EndsOnce rest ∧ language (tokensOf word) a

/-- What follows a token that was taken is shorter. -/
theorem length_le_of_cons {bound : Nat} {l : Located} {ts : List Located}
    (short : (l :: ts).length ≤ bound) : ts.length ≤ bound := by
  simp only [List.length_cons] at short
  omega

theorem length_le_of_append {bound : Nat} {word ts : List Located}
    (short : (word ++ ts).length ≤ bound) : ts.length ≤ bound := by
  simp only [List.length_append] at short
  omega

section Rules

variable {bound : Nat} {t : Token} {p : Parse α} {f : α → Parse β}
  {first second : List Token → α → Prop} {language : List Token → β → Prop}

theorem Reads.imp (reads : Reads bound p first) (weaken : ∀ word a, first word a → second word a) :
    Reads bound p second := by
  intro ts a rest ends short h
  obtain ⟨word, split, ends', derived⟩ := reads ts a rest ends short h
  exact ⟨word, split, ends', weaken _ _ derived⟩

theorem ReadsAt.imp (reads : ReadsAt t bound p first)
    (weaken : ∀ word a, first word a → second word a) : ReadsAt t bound p second := by
  intro ts a rest head ends short h
  obtain ⟨word, split, ends', derived⟩ := reads ts a rest head ends short h
  exact ⟨word, split, ends', weaken _ _ derived⟩

theorem Reads.mono {smaller : Nat} (reads : Reads bound p first) (le : smaller ≤ bound) :
    Reads smaller p first :=
  fun ts a rest ends short h => reads ts a rest ends (by omega) h

theorem Reads.at (reads : Reads bound p first) : ReadsAt t bound p first :=
  fun ts a rest _ ends short h => reads ts a rest ends short h

theorem reads_pure {b : β} (derived : language [] b) : Reads bound (pure b) language := by
  intro ts b' rest ends _ h
  obtain ⟨rfl, rfl⟩ := yields_pure.1 h
  exact ⟨[], rfl, ends, derived⟩

/-- What is read one after the other stands one after the other. What comes second has only the
tokens that are left. -/
theorem reads_bind_left (reads : Reads bound p first)
    (next : ∀ word a, first word a →
      Reads (bound - word.length) (f a) fun others b => language (word ++ others) b) :
    Reads bound (p >>= f) language := by
  intro ts b rest ends short h
  obtain ⟨a, mid, readFirst, readNext⟩ := yields_bind.1 h
  obtain ⟨word, rfl, ends', derived⟩ := reads ts a mid ends short readFirst
  have left : mid.length ≤ bound - (tokensOf word).length := by
    simp only [tokensOf, List.length_map, List.length_append] at short ⊢
    omega
  obtain ⟨others, rfl, ends'', whole⟩ := next _ a derived mid b rest ends' left readNext
  exact ⟨word ++ others, by simp, ends'', by simpa [tokensOf] using whole⟩

theorem reads_bind (reads : Reads bound p first)
    (next : ∀ word a, first word a →
      Reads bound (f a) fun others b => language (word ++ others) b) :
    Reads bound (p >>= f) language :=
  reads_bind_left reads fun word a derived => (next word a derived).mono (Nat.sub_le ..)

/-- A value may be changed at the end. -/
theorem reads_return {g : α → β} (reads : Reads bound p first)
    (derived : ∀ word a, first word a → language word (g a)) :
    Reads bound (do return g (← p)) language := by
  refine reads_bind reads fun word a from_ => reads_pure ?_
  rw [List.append_nil]
  exact derived word a from_

theorem readsAt_bind (reads : ReadsAt t bound p first)
    (next : ∀ word a, first word a →
      Reads bound (f a) fun others b => language (word ++ others) b) :
    ReadsAt t bound (p >>= f) language := by
  intro ts b rest head ends short h
  obtain ⟨a, mid, readFirst, readNext⟩ := yields_bind.1 h
  obtain ⟨word, rfl, ends', derived⟩ := reads ts a mid head ends short readFirst
  obtain ⟨others, rfl, ends'', whole⟩ :=
    next _ a derived mid b rest ends' (length_le_of_append short) readNext
  exact ⟨word ++ others, by simp, ends'', by simpa [tokensOf] using whole⟩

theorem reads_unexpected {expected : String} : Reads bound (unexpected expected) first :=
  fun _ _ _ _ _ h => absurd h not_yields_unexpected

/-- A look at the next token tells the parsers apart that go on. -/
theorem reads_peek_bind {f : Token → Parse β} (next : ∀ t, ReadsAt t bound (f t) language) :
    Reads bound (peek >>= f) language :=
  fun ts b rest ends short h => next _ ts b rest rfl ends short (yields_peek_bind.1 h)

theorem readsAt_advance_bind_left (inside : t ≠ .endOfInput) {f : Unit → Parse β}
    (next : Reads (bound - 1) (f ()) fun word b => language (t :: word) b) :
    ReadsAt t bound (advance >>= f) language := by
  intro ts b rest head ends short h
  obtain ⟨l, tail, rfl, rfl⟩ := exists_cons_of_headToken head inside
  obtain ⟨word, rfl, ends', derived⟩ := next tail b rest (ends.tail inside)
    (Nat.le_sub_one_of_lt short) ((yields_advance_bind inside).1 h)
  exact ⟨l :: word, rfl, ends', derived⟩

theorem readsAt_advance_bind (inside : t ≠ .endOfInput) {f : Unit → Parse β}
    (next : Reads bound (f ()) fun word b => language (t :: word) b) :
    ReadsAt t bound (advance >>= f) language :=
  readsAt_advance_bind_left inside (next.mono (Nat.sub_le ..))

theorem reads_expect_bind (inside : t ≠ .endOfInput) {expected : String} {f : Unit → Parse β}
    (next : Reads bound (f ()) fun word b => language (t :: word) b) :
    Reads bound (expect t expected >>= f) language := by
  intro ts b rest ends short h
  obtain ⟨l, tail, rfl, rfl, readNext⟩ := (yields_expect_bind inside).1 h
  obtain ⟨word, rfl, ends', derived⟩ :=
    next tail b rest (ends.tail inside) (length_le_of_cons short) readNext
  exact ⟨l :: word, rfl, ends', derived⟩

theorem reads_eat_bind_left (inside : t ≠ .endOfInput) {f : Bool → Parse β}
    (found : Reads (bound - 1) (f true) fun word b => language (t :: word) b)
    (missing : Reads bound (f false) language) : Reads bound (eat t >>= f) language := by
  intro ts b rest ends short h
  rcases (yields_eat_bind inside).1 h with ⟨l, tail, rfl, rfl, readNext⟩ | ⟨-, readNext⟩
  · obtain ⟨word, rfl, ends', derived⟩ :=
      found tail b rest (ends.tail inside) (Nat.le_sub_one_of_lt short) readNext
    exact ⟨l :: word, rfl, ends', derived⟩
  · exact missing ts b rest ends short readNext

theorem reads_eat_bind (inside : t ≠ .endOfInput) {f : Bool → Parse β}
    (found : Reads bound (f true) fun word b => language (t :: word) b)
    (missing : Reads bound (f false) language) : Reads bound (eat t >>= f) language :=
  reads_eat_bind_left inside (found.mono (Nat.sub_le ..)) missing

theorem reads_name {expected : String} :
    Reads bound (name expected) fun word s => word = [.name s] := by
  intro ts s rest ends _ h
  obtain ⟨l, rfl, isName⟩ := yields_name.1 h
  exact ⟨[l], rfl, ends.tail (by simp [isName]), by simp [tokensOf, isName]⟩

theorem reads_checkHeight {e : Expr} :
    Reads bound (checkHeight e) fun word e' =>
      word = [] ∧ e' = e ∧ e.height ≤ maxNesting := by
  intro ts e' rest ends _ h
  obtain ⟨low, rfl, rfl⟩ := yields_checkHeight.1 h
  exact ⟨[], rfl, ends, rfl, rfl, low⟩

/-- Behind the first token, a sign of assignment is looked for. -/
theorem readsAt_assignAhead (inside : t ≠ .endOfInput) {yes no : Parse β}
    (found : Reads bound yes fun word b => language (t :: .symbol .assign :: word) b)
    (missing : Reads bound no language) :
    ReadsAt t bound (do if ← assignAhead then advance; advance; yes else no) language := by
  intro ts b rest head ends short h
  rw [yields_assignAhead_bind] at h
  split at h
  next ahead =>
    obtain ⟨l, tail, rfl, rfl⟩ := exists_cons_of_headToken head inside
    obtain ⟨sign, tail, rfl, isSign⟩ :
        ∃ sign others, tail = sign :: others ∧ sign.token = .symbol .assign := by
      cases tail with
      | nil => simp [secondToken] at ahead
      | cons sign others => exact ⟨sign, others, rfl, of_decide_eq_true ahead⟩
    rw [yields_advance_bind inside, yields_advance_bind (by simp [isSign])] at h
    obtain ⟨word, rfl, ends', derived⟩ :=
      found tail b rest ((ends.tail inside).tail (by simp [isSign]))
        (length_le_of_cons (length_le_of_cons short)) h
    exact ⟨l :: sign :: word, rfl, ends', by simpa [tokensOf, isSign] using derived⟩
  next => exact missing ts b rest ends short h

end Rules

section Inside

variable {turns nesting : Nat} {inner : Option (Parse α)} {language : Nat → List Token → α → Prop}

/-- A language one level of nesting further in. -/
def Inside (language : Nat → List Token → α → Prop) (nesting : Nat) (word : List Token) (a : α) :
    Prop :=
  ∃ less, nesting = less + 1 ∧ language less word a

/-- If there is a parser one level further in, it reads the language there. -/
def ReadsInside (turns nesting : Nat) (inner : Option (Parse α))
    (language : Nat → List Token → α → Prop) : Prop :=
  ∀ p, inner = some p → ∃ less, nesting = less + 1 ∧ Reads turns p (language less)

theorem readsInside_none : ReadsInside turns nesting none language :=
  fun _ none => absurd none (by simp)

theorem readsInside_some {p : Parse α} (reads : Reads turns p (language nesting)) :
    ReadsInside turns (nesting + 1) (some p) language := by
  rintro _ ⟨⟩
  exact ⟨nesting, rfl, reads⟩

theorem ReadsInside.map {build : Parse α → Parse β} {built : Nat → List Token → β → Prop}
    (inside : ReadsInside turns nesting inner language)
    (reads : ∀ less p, Reads turns p (language less) → Reads turns (build p) (built less)) :
    ReadsInside turns nesting (inner.map build) built := by
  intro q isInner
  obtain ⟨p, isSome, rfl⟩ := Option.map_eq_some_iff.1 isInner
  obtain ⟨less, same, readsInner⟩ := inside p isSome
  exact ⟨less, same, reads less p readsInner⟩

theorem reads_nested (inside : ReadsInside turns nesting inner language) {what : String} :
    Reads turns (nested what inner) (Inside language nesting) := by
  intro ts a rest ends short h
  obtain ⟨p, isInner, h⟩ := yields_nested.1 h
  obtain ⟨less, same, reads⟩ := inside p isInner
  obtain ⟨word, split, ends', derived⟩ := reads ts a rest ends short h
  exact ⟨word, split, ends', less, same, derived⟩

end Inside


section Accepting

variable {turns : Nat} {t : Token} {p : Parse α} {f : α → Parse β} {follow mid : Token → Prop}
  {word others : List Token} {a : α} {b : β}

/-- Before a token that may follow it, a word is what a parser takes, with its value. The tokens
are at most as many as the turns. -/
def Accepts (turns : Nat) (p : Parse α) (follow : Token → Prop) (word : List Token) (a : α) :
    Prop :=
  ∀ ts rest, tokensOf ts = word → (ts ++ rest).length ≤ turns → follow (headToken rest) →
    Yields p (ts ++ rest) a rest

theorem Accepts.mono {fewer : Nat} (accepts : Accepts turns p follow word a) (le : fewer ≤ turns) :
    Accepts fewer p follow word a :=
  fun ts rest spelled short follows => accepts ts rest spelled (by omega) follows

/-- No word has no tokens left. -/
theorem accepts_zero (nonempty : word ≠ []) : Accepts 0 p follow word a := by
  intro ts rest spelled short _
  have none : ts ++ rest = [] := List.eq_nil_of_length_eq_zero (Nat.le_zero.1 short)
  obtain ⟨rfl, -⟩ := List.append_eq_nil_iff.1 none
  exact absurd spelled.symm nonempty

theorem accepts_zero_of_follow (inside : ¬ follow .endOfInput) : Accepts 0 p follow word a := by
  intro ts rest _ short follows
  have none : ts ++ rest = [] := List.eq_nil_of_length_eq_zero (Nat.le_zero.1 short)
  obtain ⟨-, rfl⟩ := List.append_eq_nil_iff.1 none
  exact absurd follows inside

/-- The first token of a word, or the one that follows it. -/
def firstOf (word : List Token) (next : Token) : Token :=
  word.headD next

theorem headToken_append (ts rest : List Located) :
    headToken (ts ++ rest) = firstOf (tokensOf ts) (headToken rest) := by
  cases ts <;> rfl

theorem accepts_pure : Accepts turns (pure a) follow [] a := by
  intro ts rest spelled _ _
  obtain rfl : ts = [] := List.map_eq_nil_iff.1 spelled
  exact yields_pure.2 ⟨rfl, rfl⟩

/-- What comes second has only the tokens that are left. -/
theorem accepts_bind_left (first : Accepts turns p mid word a)
    (second : Accepts (turns - word.length) (f a) follow others b)
    (meets : ∀ next, follow next → mid (firstOf others next)) :
    Accepts turns (p >>= f) follow (word ++ others) b := by
  intro ts rest spelled short follows
  obtain ⟨head, tail, rfl, rfl, rfl⟩ := tokensOf_eq_append_iff.1 spelled
  rw [List.append_assoc] at short ⊢
  refine yields_bind.2 ⟨a, tail ++ rest, first head _ rfl short ?_, second tail rest rfl ?_ follows⟩
  · rw [headToken_append]
    exact meets _ follows
  · simp only [tokensOf, List.length_map, List.length_append] at short ⊢
    omega

theorem accepts_bind (first : Accepts turns p mid word a)
    (second : Accepts turns (f a) follow others b)
    (meets : ∀ next, follow next → mid (firstOf others next)) :
    Accepts turns (p >>= f) follow (word ++ others) b :=
  accepts_bind_left first (second.mono (Nat.sub_le ..)) meets

/-- What comes second may take nothing. -/
theorem accepts_bind_nil (first : Accepts turns p mid word a)
    (second : Accepts turns (f a) follow [] b) (meets : ∀ next, follow next → mid next) :
    Accepts turns (p >>= f) follow word b := by
  have both := accepts_bind first second meets
  rwa [List.append_nil] at both

theorem accepts_peek_bind {f : Token → Parse β} (next : Accepts turns (f t) follow (t :: word) b) :
    Accepts turns (peek >>= f) follow (t :: word) b := by
  intro ts rest spelled short follows
  rw [yields_peek_bind, headToken_append_of_tokensOf spelled]
  exact next ts rest spelled short follows

theorem accepts_advance_bind_left (inside : t ≠ .endOfInput) {f : Unit → Parse β}
    (next : Accepts (turns - 1) (f ()) follow word b) :
    Accepts turns (advance >>= f) follow (t :: word) b := by
  intro ts rest spelled short follows
  obtain ⟨l, tail, rfl, rfl, spelledTail⟩ := tokensOf_eq_cons_iff.1 spelled
  exact (yields_advance_bind inside).2
    (next tail rest spelledTail (Nat.le_sub_one_of_lt short) follows)

theorem accepts_advance_bind (inside : t ≠ .endOfInput) {f : Unit → Parse β}
    (next : Accepts turns (f ()) follow word b) :
    Accepts turns (advance >>= f) follow (t :: word) b :=
  accepts_advance_bind_left inside (next.mono (Nat.sub_le ..))

theorem accepts_expect_bind (inside : t ≠ .endOfInput) {expected : String} {f : Unit → Parse β}
    (next : Accepts turns (f ()) follow word b) :
    Accepts turns (expect t expected >>= f) follow (t :: word) b := by
  intro ts rest spelled short follows
  obtain ⟨l, tail, rfl, isToken, spelledTail⟩ := tokensOf_eq_cons_iff.1 spelled
  exact (yields_expect_bind inside).2
    ⟨l, _, rfl, isToken, next tail rest spelledTail (length_le_of_cons short) follows⟩

theorem accepts_eat_bind_left (inside : t ≠ .endOfInput) {f : Bool → Parse β}
    (next : Accepts (turns - 1) (f true) follow word b) :
    Accepts turns (eat t >>= f) follow (t :: word) b := by
  intro ts rest spelled short follows
  obtain ⟨l, tail, rfl, isToken, spelledTail⟩ := tokensOf_eq_cons_iff.1 spelled
  exact (yields_eat_bind inside).2 (.inl
    ⟨l, _, rfl, isToken, next tail rest spelledTail (Nat.le_sub_one_of_lt short) follows⟩)

theorem accepts_eat_bind (inside : t ≠ .endOfInput) {f : Bool → Parse β}
    (next : Accepts turns (f true) follow word b) :
    Accepts turns (eat t >>= f) follow (t :: word) b :=
  accepts_eat_bind_left inside (next.mono (Nat.sub_le ..))

/-- A token that does not come next is not taken. -/
theorem accepts_eat_bind_of_ne (inside : t ≠ .endOfInput) {f : Bool → Parse β}
    (other : ∀ next, follow next → firstOf word next ≠ t)
    (next : Accepts turns (f false) follow word b) :
    Accepts turns (eat t >>= f) follow word b := by
  rintro ts rest rfl short follows
  refine (yields_eat_bind inside).2 (.inr ⟨?_, next ts rest rfl short follows⟩)
  rw [headToken_append]
  exact other _ follows

theorem accepts_name {expected s : String} :
    Accepts turns (name expected) follow [.name s] s := by
  intro ts rest spelled _ _
  obtain ⟨l, rfl, isName⟩ := tokensOf_eq_singleton_iff.1 spelled
  exact yields_name.2 ⟨l, rfl, isName⟩

theorem accepts_name_bind {expected s : String} {f : String → Parse β}
    (next : Accepts turns (f s) follow word b) :
    Accepts turns (name expected >>= f) follow (.name s :: word) b := by
  have read : Accepts turns (name expected) (fun _ => True) [.name s] s := accepts_name
  exact accepts_bind read next fun _ _ => trivial

theorem accepts_checkHeight {e : Expr} (low : e.height ≤ maxNesting) :
    Accepts turns (checkHeight e) follow [] e := by
  intro ts rest spelled _ _
  obtain rfl : ts = [] := List.map_eq_nil_iff.1 spelled
  exact yields_checkHeight.2 ⟨low, rfl, rfl⟩

/-- The sign of assignment is found behind the first token, and both are passed. -/
theorem accepts_assignAhead (inside : t ≠ .endOfInput) {yes no : Parse β}
    (next : Accepts turns yes follow word b) :
    Accepts turns (do if ← assignAhead then advance; advance; yes else no) follow
      (t :: .symbol .assign :: word) b := by
  intro ts rest spelled short follows
  obtain ⟨l, tail, rfl, rfl, spelledTail⟩ := tokensOf_eq_cons_iff.1 spelled
  obtain ⟨sign, tail, rfl, isSign, spelledRest⟩ := tokensOf_eq_cons_iff.1 spelledTail
  rw [yields_assignAhead_bind, if_pos (by simp [secondToken, isSign])]
  refine (yields_advance_bind inside).2 ((yields_advance_bind (by simp [isSign])).2 ?_)
  exact next tail rest spelledRest (length_le_of_cons (length_le_of_cons short)) follows

theorem secondToken_cons (l : Located) (ts : List Located) :
    secondToken (l :: ts) = headToken ts := by
  cases ts <;> rfl

/-- Without a sign of assignment, nothing is passed. -/
theorem accepts_assignAhead_of_ne {yes no : Parse β}
    (other : ∀ next, follow next → firstOf word next ≠ .symbol .assign)
    (next : Accepts turns no follow (t :: word) b) :
    Accepts turns (do if ← assignAhead then advance; advance; yes else no) follow
      (t :: word) b := by
  intro ts rest spelled short follows
  have read := next ts rest spelled short follows
  obtain ⟨l, tail, rfl, -, rfl⟩ := tokensOf_eq_cons_iff.1 spelled
  have noSign : secondToken (l :: tail ++ rest) ≠ .symbol .assign := by
    rw [List.cons_append, secondToken_cons, headToken_append]
    exact other _ follows
  rwa [yields_assignAhead_bind, if_neg (by simpa using noSign)]

end Accepting

end Parse
end Script
end StagedScript
