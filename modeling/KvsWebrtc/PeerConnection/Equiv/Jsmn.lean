import KvsWebrtc.Common.Status
import KvsWebrtc.PeerConnection.Jsmn

/-!
# Where the tokens of a text lie

Every token lies in what the tokenizer has passed, and behind the start of each but the last there
is a character there that ends strings and primitives.
-/

namespace KvsWebrtc.Jsmn

variable {pos finish digits rounds : Nat} {s rest pre : List Char} {c : Char}
    {tokens : List JsmnToken}
  {parser parser' : JsmnParser}

/-! ### Strings and primitives -/

theorem parseString_ok (h : parseString digits s pos = .ok (finish, rest)) :
    ∃ body, s = body ++ '"' :: rest ∧ finish = pos + body.length ∧ '\x00' ∉ body := by
  have hcons : ∀ {c : Char} {s : List Char} {n : Nat}, c ≠ '\x00' →
      (∃ body, s = body ++ '"' :: rest ∧ finish = n + 1 + body.length ∧ '\x00' ∉ body) →
      ∃ body, c :: s = body ++ '"' :: rest ∧ finish = n + body.length ∧ '\x00' ∉ body := by
    rintro c s n hc ⟨body, rfl, rfl, hbody⟩
    exact ⟨c :: body, rfl, by
      rw [List.length_cons]; omega, List.not_mem_cons_of_ne_of_not_mem (Ne.symm hc) hbody⟩
  fun_induction parseString digits s pos with
  | case1 => cases h
  | case2 => cases h
  | case3 digits c s pos hzero hdigit ih => exact hcons hzero (ih h)
  | case4 => cases h
  | case5 => cases h
  | case6 s pos hzero =>
    obtain ⟨rfl, rfl⟩ := Prod.mk.inj (Except.ok.inj h)
    exact ⟨[], rfl, rfl, List.not_mem_nil⟩
  | case7 => cases h
  | case8 pos e s hsymbol _ _ ih =>
    exact hcons (by decide) (hcons (fun he => absurd hsymbol (he ▸ by decide)) (ih h))
  | case9 pos s _ _ _ ih => exact hcons (by decide) (hcons (by decide) (ih h))
  | case10 => cases h
  | case11 c s pos hzero hquote hslash ih => exact hcons hzero (ih h)

def EndsPrimitive (s : List Char) : Prop := ∀ c ∈ s.head?, c = '\x00' ∨ c ∈ primitiveDelimiters

theorem parsePrimitive_ok (h : parsePrimitive s pos = .ok (finish, rest)) :
    ∃ body, s = body ++ rest ∧ finish = pos + body.length ∧ '\x00' ∉ body ∧ EndsPrimitive rest := by
  fun_induction parsePrimitive s pos with
  | case1 pos =>
    obtain ⟨rfl, rfl⟩ := Prod.mk.inj (Except.ok.inj h)
    exact ⟨[], rfl, rfl, List.not_mem_nil, nofun⟩
  | case2 c s pos hend =>
    obtain ⟨rfl, rfl⟩ := Prod.mk.inj (Except.ok.inj h)
    exact ⟨[], rfl, rfl, List.not_mem_nil, fun d hd => Option.mem_some.mp hd ▸ hend⟩
  | case3 => cases h
  | case4 c s pos hend _ ih =>
    obtain ⟨body, rfl, rfl, hbody, hrest⟩ := ih h
    refine ⟨c :: body, rfl, by rw [List.length_cons]; omega, ?_, hrest⟩
    exact List.not_mem_cons_of_ne_of_not_mem (fun hc => hend (.inl hc.symm)) hbody

/-! ### Tokens in a text -/

/-- The characters that end strings and primitives or begin other tokens. -/
def stops : List Char := '"' :: '\x7b' :: '[' :: primitiveDelimiters

/-- There is such a character from `n` on. -/
def Stopped (pre : List Char) (n : Nat) : Prop := ∃ c ∈ pre.drop n, c ∈ stops

/-- A token from `start` to `finish` lies in the text, and only one in quotes is empty. -/
structure Spans (pre : List Char) (start finish : Nat) : Prop where
  le : start ≤ finish
  finish_le : finish ≤ pre.length
  quoted : start = finish → pre[finish]? = some '"'

/-- The tokens lie in the text `pre`, behind which `s` follows. -/
structure Inside (pre s : List Char) (tokens : List JsmnToken) : Prop where
  zero : '\x00' ∉ pre
  start_le : ∀ t ∈ tokens, t.start ≤ pre.length
  spans : ∀ t ∈ tokens, ∀ finish ∈ t.finish, Spans pre t.start finish
  stopped : ∀ n ∈ (tokens.map (·.start)).dropLast, Stopped pre n
  last : ∀ n ∈ (tokens.map (·.start)).getLast?, Stopped pre n ∨ EndsPrimitive s

theorem Spans.append {start finish : Nat} (h : Spans pre start finish) (s : List Char) :
    Spans (pre ++ s) start finish where
  le := h.le
  finish_le := by
    rw [List.length_append]
    exact Nat.le_add_right_of_le h.finish_le
  quoted := fun heq => by
    have hquote := h.quoted heq
    rw [List.getElem?_append_left (List.getElem?_eq_some_iff.mp hquote).1]
    exact hquote

theorem Stopped.append {n : Nat} (h : Stopped pre n) (s : List Char) : Stopped (pre ++ s) n := by
  obtain ⟨c, hc, hstop⟩ := h
  refine ⟨c, ?_, hstop⟩
  rw [List.drop_append]
  exact List.mem_append_left _ hc

theorem stopped_of_mem {n : Nat} (hn : n ≤ pre.length) (hc : c ∈ stops) (s : List Char) :
    Stopped (pre ++ c :: s) n := by
  refine ⟨c, ?_, hc⟩
  rw [List.drop_append_of_le_length hn]
  exact List.mem_append_right _ List.mem_cons_self

theorem mem_dropLast_or {α : Type*} {l : List α} {x : α} (h : x ∈ l) :
    x ∈ l.dropLast ∨ x ∈ l.getLast? := by
  rcases List.eq_nil_or_concat' l with rfl | ⟨init, y, rfl⟩
  · cases h
  · rw [List.dropLast_concat, List.getLast?_concat]
    rcases List.mem_append.mp h with h | h
    · exact .inl h
    · exact .inr (congrArg some (List.mem_singleton.mp h).symm)

/-- All tokens are stopped once another character is passed. -/
theorem Inside.stopped_cons (h : Inside pre (c :: s) tokens) (hc : c ≠ '\x00') (s' : List Char) :
    ∀ n ∈ tokens.map (·.start), Stopped (pre ++ c :: s') n := by
  intro n hn
  rcases mem_dropLast_or hn with hinit | hlast
  · exact (h.stopped n hinit).append _
  · rcases h.last n hlast with hstop | hends
    · exact hstop.append _
    · obtain ⟨t, ht, rfl⟩ := List.mem_map.mp hn
      have hdelimiter : c ∈ stops :=
        List.mem_cons_of_mem _ (List.mem_cons_of_mem _ (List.mem_cons_of_mem _
          ((hends c rfl).resolve_left hc)))
      exact stopped_of_mem (h.start_le t ht) hdelimiter s'

theorem Inside.pass {passed : List Char} (h : Inside pre (c :: s) tokens)
    (hzero : '\x00' ∉ c :: passed) (rest : List Char) : Inside
    (pre ++ c :: passed) rest tokens where
  zero := fun hmem => (List.mem_append.mp hmem).elim h.zero hzero
  start_le := fun t ht => Nat.le_trans (h.start_le t ht) (by simp)
  spans := fun t ht finish hfinish => (h.spans t ht finish hfinish).append _
  stopped := fun n hn =>
    h.stopped_cons (fun hc => hzero (hc ▸ List.mem_cons_self)) passed n (List.dropLast_subset _ hn)
  last := fun n hn =>
    .inl (h.stopped_cons (fun hc => hzero (hc ▸ List.mem_cons_self)) passed n
      (List.mem_of_getLast? hn))

theorem Inside.push {t : JsmnToken} (h : Inside pre s tokens)
    (hall : ∀ n ∈ tokens.map (·.start), Stopped pre n) (hstart : t.start ≤ pre.length)
    (hspans : ∀ finish ∈ t.finish, Spans pre t.start finish)
    (hstop : Stopped pre t.start ∨ EndsPrimitive s) : Inside pre s (tokens ++ [t]) where
  zero := h.zero
  start_le := fun x hx => (List.mem_append.mp hx).elim (h.start_le x) fun hx =>
  List.mem_singleton.mp hx ▸ hstart
  spans := fun x hx => (List.mem_append.mp hx).elim (h.spans x) fun hx =>
  List.mem_singleton.mp hx ▸ hspans
  stopped := by
    rw [List.map_append, List.map_singleton, List.dropLast_concat]
    exact hall
  last := by
    rw [List.map_append, List.map_singleton, List.getLast?_concat]
    exact fun n hn => Option.mem_some.mp hn ▸ hstop

theorem Inside.modify (h : Inside pre s tokens) (i : Nat) {f : JsmnToken → JsmnToken}
    (hstart : ∀ t, (f t).start = t.start)
    (hspans : ∀ t ∈ tokens, ∀ finish ∈ (f t).finish, Spans pre t.start finish) :
    Inside pre s (tokens.modify i f) := by
  have hmap : (tokens.modify i f).map (·.start) = tokens.map (·.start) := by
    refine List.ext_getElem? fun k => ?_
    rw [List.getElem?_map, List.getElem?_map, List.getElem?_modify]
    split_ifs
    · cases tokens[k]? with
      | none => rfl
      | some t => exact congrArg some (hstart t)
    · cases tokens[k]? <;> rfl
  have hmem : ∀ t ∈ tokens.modify i f, t ∈ tokens ∨ ∃ t' ∈ tokens, t = f t' := by
    intro t ht
    obtain ⟨k, hk⟩ := List.mem_iff_getElem?.mp ht
    rw [List.getElem?_modify] at hk
    cases htoken : tokens[k]? with
    | none =>
      rw [htoken] at hk
      cases hk
    | some t' =>
      have ht' := List.mem_of_getElem? htoken
      rw [htoken] at hk
      split_ifs at hk
      · exact .inr ⟨t', ht', (Option.some.inj hk).symm⟩
      · exact .inl (Option.some.inj hk ▸ ht')
  refine ⟨h.zero, ?_, ?_, hmap ▸ h.stopped, hmap ▸ h.last⟩
  · intro t ht
    rcases hmem t ht with ht | ⟨t', ht', rfl⟩
    · exact h.start_le t ht
    · exact hstart t' ▸ h.start_le t' ht'
  · intro t ht finish hf
    rcases hmem t ht with ht | ⟨t', ht', rfl⟩
    · exact h.spans t ht finish hf
    · exact hstart t' ▸ hspans t' ht' finish hf

/-! ### The loop -/

theorem Inside.growSuper (h : Inside pre s parser.tokens) :
    Inside pre s parser.growSuper.tokens := by
  rw [JsmnParser.growSuper]
  cases parser.toksuper with
  | none => exact h
  | some i => exact h.modify i (fun _ => rfl) h.spans

theorem pos_growSuper (parser : JsmnParser) : parser.growSuper.pos = parser.pos := by
  rw [JsmnParser.growSuper]
  cases parser.toksuper <;> rfl

theorem allocToken_ok {t : JsmnToken} (h : parser.allocToken t = .ok parser') :
    parser' = { parser with tokens := parser.tokens ++ [t] } := by
  rw [JsmnParser.allocToken] at h
  split_ifs at h
  exact (Except.ok.inj h).symm

theorem addToken_ok {type : JsmnType} {start : Nat}
    (h : parser.addToken type start finish pos = .ok parser') :
    parser'.pos = pos ∧ ∀ pre s,
      Inside pre s (parser.tokens ++ [⟨type, start, some finish, 0⟩]) →
        Inside pre s parser'.tokens := by
  obtain ⟨parser₁, halloc, h⟩ := bind_eq_ok_iff.mp h
  obtain rfl := allocToken_ok halloc
  obtain rfl := Except.ok.inj h
  exact ⟨rfl, fun pre s hinside => Inside.growSuper hinside⟩

theorem openToken_ok {type : JsmnType} (h : parser.openToken type = .ok parser') :
    parser'.pos = parser.pos ∧ ∀ pre s,
      Inside pre s (parser.tokens ++ [⟨type, parser.pos, none, 0⟩]) →
        Inside pre s parser'.tokens := by
  obtain ⟨parser₁, halloc, h⟩ := bind_eq_ok_iff.mp h
  obtain rfl := allocToken_ok halloc
  obtain rfl := Except.ok.inj h
  exact ⟨pos_growSuper _, fun pre s hinside => Inside.growSuper hinside⟩

theorem closeToken_ok {type : JsmnType} (h : parser.closeToken type = .ok parser') :
    parser'.pos = parser.pos ∧ ∀ pre s, pre.length = parser.pos + 1 →
      (∀ t ∈ parser.tokens, t.start ≤ parser.pos) →
      Inside pre s parser.tokens → Inside pre s parser'.tokens := by
  rw [JsmnParser.closeToken] at h
  cases hopen : lastOpen (fun _ => true) parser.tokens with
  | none =>
    rw [hopen] at h
    cases h
  | some i =>
    rw [hopen] at h
    dsimp only at h
    split_ifs at h
    obtain rfl := Except.ok.inj h
    refine ⟨rfl, fun pre s hlen hstart hinside => hinside.modify i (fun _ => rfl) ?_⟩
    intro t ht finish hfinish
    obtain rfl := Option.mem_some.mp hfinish
    have hle := hstart t ht
    exact ⟨Nat.le_succ_of_le hle, Nat.le_of_eq hlen.symm, fun heq => by omega⟩

theorem tokens_comma (parser : JsmnParser) : parser.comma.tokens = parser.tokens := by
  rw [JsmnParser.comma]
  split
  · rfl
  · split_ifs
    · rfl
    · split <;> rfl

/-- From `s` on the tokenizer gets to `s'`. -/
def Advances (pre s : List Char) (parser : JsmnParser) (s' : List Char) : Prop :=
  ∃ pre', pre ++ s = pre' ++ s' ∧ parser.pos = pre'.length ∧ Inside pre' s' parser.tokens

theorem advances_of_inside (passed : List Char) (hpos : parser.pos = pre.length + passed.length)
    (h : Inside (pre ++ passed) rest parser.tokens) : Advances pre (passed ++ rest) parser rest :=
  ⟨pre ++ passed, (List.append_assoc ..).symm, by rw [hpos, List.length_append], h⟩

section Rounds

variable (hzero : c ≠ '\x00') (hpos : parser.pos = pre.length)
    (hinside : Inside pre (c :: s) parser.tokens)

include hzero hpos hinside

theorem advances_char (htokens : parser'.tokens = parser.tokens)
    (hpos' : parser'.pos = parser.pos + 1) :
    Advances pre (c :: s) parser' s :=
  advances_of_inside [c] (by rw [hpos', hpos]; rfl)
    (htokens ▸ hinside.pass (by simpa using Ne.symm hzero) s)

theorem advances_open {type : JsmnType} (hstop : c ∈ stops)
    (h : parser.openToken type = .ok parser') :
    Advances pre (c :: s) { parser' with pos := parser'.pos + 1 } s := by
  obtain ⟨hpos', hopened⟩ := openToken_ok h
  have hpass : Inside (pre ++ [c]) s parser.tokens := hinside.pass (by simpa using Ne.symm hzero) s
  refine advances_of_inside [c] (by simp [hpos', hpos]) (hopened _ _ ?_)
  exact hpass.push (hinside.stopped_cons hzero []) (by simp [hpos]) nofun
    (.inl (stopped_of_mem (Nat.le_of_eq hpos) hstop []))

theorem advances_close {type : JsmnType} (h : parser.closeToken type = .ok parser') :
    Advances pre (c :: s) { parser' with pos := parser'.pos + 1 } s := by
  obtain ⟨hpos', hclosed⟩ := closeToken_ok h
  have hpass : Inside (pre ++ [c]) s parser.tokens := hinside.pass (by simpa using Ne.symm hzero) s
  exact advances_of_inside [c] (by simp [hpos', hpos])
    (hclosed _ _ (by simp [hpos]) (hpos ▸ hinside.start_le) hpass)

theorem advances_string {body : List Char} (hs : s = body ++ '"' :: rest) (hbody : '\x00' ∉ body)
    (h : parser.addToken .string (parser.pos + 1) (parser.pos + 1 + body.length)
      (parser.pos + 1 + body.length + 1) =
      .ok parser') : Advances pre (c :: s) parser' rest := by
  obtain ⟨hpos', hadded⟩ := addToken_ok h
  have hzeros : '\x00' ∉ c :: (body ++ ['"']) := by simpa [hbody] using Ne.symm hzero
  have hlong : (pre ++ c :: (body ++ ['"'])).length = parser.pos + 1 + body.length + 1 := by
    simp [hpos]
    omega
  have hquote : '"' ∈ stops := by decide
  have hstop : Stopped (pre ++ c :: (body ++ ['"'])) (parser.pos + 1) := by
    have hle : parser.pos + 1 ≤ (pre ++ c :: body).length := by simp [hpos]
    simpa using stopped_of_mem hle hquote []
  have hsplit : c :: s = c :: (body ++ ['"']) ++ rest := by simp [hs]
  rw [hsplit]
  refine advances_of_inside _ (by rw [hpos', ← hlong, List.length_append]) (hadded _ _ ?_)
  refine (hinside.pass hzeros rest).push (hinside.stopped_cons hzero _) (show parser.pos + 1 ≤ _ by
    omega) ?_
    (.inl hstop)
  intro f hf
  obtain rfl := Option.mem_some.mp hf
  refine ⟨Nat.le_add_right _ _, by omega, fun _ => ?_⟩
  have hplace : (pre ++ c :: body).length = parser.pos + 1 + body.length := by
    simp [hpos]
    omega
  have hquoted : (pre ++ c :: body ++ ['"'])[(pre ++ c :: body).length]? = some '"' :=
    List.getElem?_concat_length
  rw [hplace, List.append_assoc, List.cons_append] at hquoted
  exact hquoted

theorem advances_primitive {body : List Char} (hs : c :: s = c :: body ++ rest)
    (hbody : '\x00' ∉ c :: body) (hends : EndsPrimitive rest)
    (h : parser.addToken .primitive parser.pos (parser.pos + (c :: body).length)
      (parser.pos + (c :: body).length) =
      .ok parser') : Advances pre (c :: s) parser' rest := by
  obtain ⟨hpos', hadded⟩ := addToken_ok h
  have hlong : (pre ++ c :: body).length = parser.pos + (c :: body).length := by
    rw [List.length_append, hpos]
  rw [hs]
  refine advances_of_inside _ (by rw [hpos', hpos]) (hadded _ _ ?_)
  refine (hinside.pass hbody rest).push (hinside.stopped_cons hzero _) (show parser.pos ≤ _ by
    omega) ?_ (.inr hends)
  intro f hf
  obtain rfl := Option.mem_some.mp hf
  refine ⟨Nat.le_add_right _ _, by omega, fun heq => ?_⟩
  have hpositive : parser.pos < parser.pos + (c :: body).length :=
    Nat.lt_add_of_pos_right (Nat.succ_pos body.length)
  exact absurd heq (Nat.ne_of_lt hpositive)

theorem parseLoop_round (h : parseLoop (rounds + 1) parser (c :: s) = .ok parser') :
    ∃ parser₁ s₁, Advances pre (c :: s) parser₁ s₁ ∧ parseLoop rounds parser₁ s₁ = .ok parser' := by
  rw [parseLoop, if_neg hzero] at h
  by_cases hopen : c = '\x7b' ∨ c = '['
  · rw [if_pos hopen] at h
    obtain ⟨parser₁, hopened, h⟩ := bind_eq_ok_iff.mp h
    exact ⟨_, _, advances_open hzero hpos hinside (by rcases hopen with rfl | rfl <;> decide)
      hopened, h⟩
  rw [if_neg hopen] at h
  by_cases hclose : c = '\x7d' ∨ c = ']'
  · rw [if_pos hclose] at h
    obtain ⟨parser₁, hclosed, h⟩ := bind_eq_ok_iff.mp h
    exact ⟨_, _, advances_close hzero hpos hinside hclosed, h⟩
  rw [if_neg hclose] at h
  by_cases hquote : c = '"'
  · rw [if_pos hquote] at h
    obtain ⟨⟨finish, rest⟩, hstring, h⟩ := bind_eq_ok_iff.mp h
    obtain ⟨body, hs, rfl, hbody⟩ := parseString_ok hstring
    obtain ⟨parser₁, hadded, h⟩ := bind_eq_ok_iff.mp h
    exact ⟨_, _, advances_string hzero hpos hinside hs hbody hadded, h⟩
  rw [if_neg hquote] at h
  by_cases hspace : c = '\t' ∨ c = '\r' ∨ c = '\n' ∨ c = ' '
  · rw [if_pos hspace] at h
    refine ⟨_, _, ?_, h⟩
    exact advances_char hzero hpos hinside rfl rfl
  rw [if_neg hspace] at h
  by_cases hcolon : c = ':'
  · rw [if_pos hcolon] at h
    refine ⟨_, _, ?_, h⟩
    exact advances_char hzero hpos hinside rfl rfl
  rw [if_neg hcolon] at h
  by_cases hcomma : c = ','
  · rw [if_pos hcomma] at h
    refine ⟨_, _, ?_, h⟩
    exact advances_char hzero hpos hinside (tokens_comma parser) rfl
  rw [if_neg hcomma] at h
  obtain ⟨⟨finish, rest⟩, hprimitive, htoken⟩ := bind_eq_ok_iff.mp h
  obtain ⟨body, hs, rfl, hbody, hends⟩ := parsePrimitive_ok hprimitive
  obtain ⟨parser₁, hadded, hrest⟩ := bind_eq_ok_iff.mp htoken
  cases body with
  | nil =>
    -- a primitive does not begin with what ends one
    obtain rfl : c :: s = rest := hs
    have hdelimiter := (hends c rfl).resolve_left hzero
    simp only [primitiveDelimiters, List.mem_cons, List.not_mem_nil, or_false] at hdelimiter
    tauto
  | cons x body =>
    obtain ⟨rfl, -⟩ := List.cons.inj hs
    exact ⟨_, _, advances_primitive hzero hpos hinside hs hbody hends hadded, hrest⟩

end Rounds

/-- **The tokens lie in what is passed.** -/
theorem parseLoop_inside (h : parseLoop rounds parser s = .ok parser')
    (hpos : parser.pos = pre.length) (hinside : Inside pre s parser.tokens) :
    ∃ pre' s', pre ++ s = pre' ++ s' ∧ Inside pre' s' parser'.tokens := by
  induction rounds generalizing parser pre s with
  | zero =>
    obtain rfl := Except.ok.inj h
    exact ⟨pre, s, rfl, hinside⟩
  | succ rounds ih =>
    cases s with
    | nil =>
      obtain rfl := Except.ok.inj h
      exact ⟨pre, [], rfl, hinside⟩
    | cons c s =>
      by_cases hzero : c = '\x00'
      · rw [parseLoop, if_pos hzero] at h
        obtain rfl := Except.ok.inj h
        exact ⟨pre, c :: s, rfl, hinside⟩
      · obtain ⟨parser₁, s₁, ⟨pre₁, hsplit, hpos₁, hinside₁⟩, h⟩ :=
          parseLoop_round hzero hpos hinside h
        obtain ⟨pre', s', hsplit', hinside'⟩ := ih h hpos₁ hinside₁
        exact ⟨pre', s', hsplit.trans hsplit', hinside'⟩

theorem lastOpen_eq_none {p : JsmnToken → Bool} (h : lastOpen p tokens = none) :
    ∀ t ∈ tokens, p t = true → t.finish.isSome := by
  induction tokens with
  | nil => exact nofun
  | cons t tokens ih =>
    rw [lastOpen] at h
    cases hrest : lastOpen p tokens with
    | some i =>
      rw [hrest] at h
      cases h
    | none =>
      rw [hrest] at h
      dsimp only at h
      split_ifs at h with hopen
      intro t' ht' hp
      rcases List.mem_cons.mp ht' with rfl | ht'
      · simpa [hp, Option.isSome_iff_ne_none] using hopen
      · exact ih hrest t' ht' hp

/-- **Tokens of a text**: they lie in it and are closed. -/
theorem jsmnParse_inside {numTokens : Nat} {js : List Char}
    (h : jsmnParse numTokens js = .ok tokens) :
    (∀ t ∈ tokens, t.finish.isSome) ∧ ∃ pre s, js = pre ++ s ∧ Inside pre s tokens := by
  obtain ⟨parser, hloop, h⟩ := bind_eq_ok_iff.mp h
  have hempty : Inside [] js (jsmnInit numTokens).tokens :=
    ⟨List.not_mem_nil, nofun, nofun, nofun, nofun⟩
  obtain ⟨pre, s, hsplit, hinside⟩ := parseLoop_inside hloop rfl hempty
  cases hopen : lastOpen (fun _ => true) parser.tokens with
  | some i =>
    rw [hopen] at h
    cases h
  | none =>
    rw [hopen] at h
    obtain rfl := Except.ok.inj h
    exact ⟨fun t ht => lastOpen_eq_none hopen t ht rfl, pre, s, hsplit, hinside⟩

end KvsWebrtc.Jsmn
