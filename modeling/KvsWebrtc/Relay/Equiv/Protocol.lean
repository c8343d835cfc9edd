import KvsWebrtc.Relay.Protocol
import Mathlib.Data.List.TakeWhile

/-!
# Keys and values

What `findValueAfterKey` finds in a text that is cut into parts by quotes: the first part that is
the key counts, whether it stands for a key or for a value.
-/

namespace KvsWebrtc.Relay

def quoteByte : UInt8 := '"'.toUInt8

/-- Bytes without a zero, a quote or a backslash. -/
def Unquoted (b : List UInt8) : Prop := ∀ c ∈ b, c ≠ 0 ∧ c ≠ quoteByte ∧ c ≠ '\\'.toUInt8

instance (b : List UInt8) : Decidable (Unquoted b) :=
  List.decidableBAll (fun c => c ≠ 0 ∧ c ≠ quoteByte ∧ c ≠ '\\'.toUInt8) b

def quoted (parts : List (List UInt8)) : List UInt8 := parts.flatMap (quoteByte :: ·)

variable {key value rest : List UInt8}

theorem Unquoted.cString_eq (h : Unquoted value) : cString value = value :=
  List.takeWhile_eq_self_iff.mpr fun c hc => decide_eq_true (h c hc).1

theorem quotedValue_unquoted (h : Unquoted value) (rest : List UInt8) :
    quotedValue (value ++ quoteByte :: rest) = some value := by
  induction value with
  | nil =>
    rw [List.nil_append, quotedValue.eq_def]
    exact if_pos rfl
  | cons c value ih =>
    obtain ⟨hc, hvalue⟩ := List.forall_mem_cons.mp h
    have hquote : c ≠ '"'.toUInt8 := hc.2.1
    rw [List.cons_append, quotedValue.eq_def]
    simp only [if_neg hquote, if_neg hc.2.2, ih hvalue, Option.map_some]

/-- A part between quotes is the key if its bytes are. -/
theorem isPrefixOf_quoted (hkey : quoteByte ∉ key) (hvalue : quoteByte ∉ value)
    (rest : List UInt8) :
    (quoteByte :: (key ++ [quoteByte])).isPrefixOf
    (quoteByte :: (value ++ quoteByte :: rest)) = true ↔
      value = key := by
  have htake : ∀ {b : List UInt8}, quoteByte ∉ b → ∀ t, (b ++ quoteByte :: t).takeWhile
      (· ≠ quoteByte) = b := by
    intro b hb t
    rw [List.takeWhile_append_of_pos, List.takeWhile_cons_of_neg (by simp), List.append_nil]
    exact fun c hc => decide_eq_true fun heq => hb (heq ▸ hc)
  rw [List.isPrefixOf_iff_prefix, List.cons_prefix_cons]
  constructor
  · rintro ⟨-, t, ht⟩
    rw [List.append_assoc, List.singleton_append] at ht
    rw [← htake hvalue rest, ← ht, htake hkey]
  · rintro rfl
    exact ⟨rfl, rest, by simp⟩

/-- A byte at which a quoted needle cannot begin. -/
theorem strstr_skip {needle : List UInt8} {c : UInt8} (hc : c ≠ 0) (hquote : c ≠ quoteByte)
    (rest : List UInt8) :
    strstr (quoteByte :: needle) (c :: rest) = strstr (quoteByte :: needle) rest := by
  rw [strstr, if_neg, if_neg hc]
  rw [List.isPrefixOf_iff_prefix, List.cons_prefix_cons]
  exact fun h => hquote h.1.symm

theorem strstr_unquoted {needle : List UInt8} (h : Unquoted value) (rest : List UInt8) :
    strstr (quoteByte :: needle) (value ++ rest) = strstr (quoteByte :: needle) rest := by
  induction value with
  | nil => rfl
  | cons c value ih =>
    obtain ⟨hc, hvalue⟩ := List.forall_mem_cons.mp h
    rw [List.cons_append, strstr_skip hc.1 hc.2.1, ih hvalue]

theorem quoted_quote (parts : List (List UInt8)) (rest : List UInt8) :
    ∃ t, quoted parts ++ quoteByte :: rest = quoteByte :: t := by
  cases parts with
  | nil => exact ⟨rest, rfl⟩
  | cons part parts => exact ⟨_, rfl⟩

theorem Unquoted.quote_notMem (h : Unquoted value) : quoteByte ∉ value :=
  fun hmem => (h _ hmem).2.1 rfl

theorem strstr_quoted (hkey : Unquoted key) {parts : List (List UInt8)}
    (hparts : ∀ part ∈ parts, Unquoted part ∧ part ≠ key) (rest : List UInt8) :
    strstr (quoteByte :: (key ++ [quoteByte])) (quoted parts ++ quoteByte :: rest) =
      strstr (quoteByte :: (key ++ [quoteByte])) (quoteByte :: rest) := by
  induction parts with
  | nil => rfl
  | cons part parts ih =>
    obtain ⟨⟨hpart, hne⟩, hparts⟩ := List.forall_mem_cons.mp hparts
    obtain ⟨t, ht⟩ := quoted_quote parts rest
    have hrest := ih hparts
    rw [quoted, List.flatMap_cons, ← quoted, List.append_assoc, List.cons_append, ht, strstr,
      if_neg, if_neg (by decide), strstr_unquoted hpart, ← ht, hrest]
    rwa [isPrefixOf_quoted hkey.quote_notMem hpart.quote_notMem]

theorem strstr_key (hkey : Unquoted key) {front : List UInt8} (hfront : Unquoted front)
    {parts : List (List UInt8)} (hparts : ∀ part ∈ parts, Unquoted part ∧ part ≠ key)
    (rest : List UInt8) :
    strstr (quoteByte :: (key ++ [quoteByte]))
    (front ++ (quoted parts ++ quoteByte :: (key ++ quoteByte :: rest))) =
      some (quoteByte :: (key ++ quoteByte :: rest)) := by
  rw [strstr_unquoted hfront, strstr_quoted hkey hparts, strstr, if_pos]
  rw [isPrefixOf_quoted hkey.quote_notMem hkey.quote_notMem]

variable {name : String} {front : List UInt8} {parts : List (List UInt8)}

theorem findValueAfterKey_eq (hkey : Unquoted (bytesOf name)) (hfront : Unquoted front)
    (hparts : ∀ part ∈ parts, Unquoted part ∧ part ≠ bytesOf name) (rest : List UInt8) :
    findValueAfterKey (front ++ (quoted parts ++ quoteByte :: (bytesOf name ++ quoteByte :: rest)))
      name =
      match rest.dropWhile isSeparator with
      | [] => none
      | c :: p => if c = quoteByte then quotedValue p else none := by
  have hsearch : bytesOf "\"" ++ bytesOf name ++ bytesOf "\"" =
      quoteByte :: (bytesOf name ++ [quoteByte]) := rfl
  have hdrop : (quoteByte :: (bytesOf name ++ quoteByte :: rest)).drop
      (quoteByte :: (bytesOf name ++ [quoteByte])).length = rest := by
    rw [List.length_cons, List.length_append, List.length_singleton, List.drop_succ_cons]
    rw [show bytesOf name ++ quoteByte :: rest = (bytesOf name ++ [quoteByte]) ++ rest by simp]
    exact List.drop_left' (by simp)
  rw [findValueAfterKey, hsearch, strstr_key hkey hfront hparts]
  simp only [hdrop]
  rfl

theorem quoted_append (parts rest : List (List UInt8)) :
    quoted (parts ++ rest) = quoted parts ++ quoted rest :=
  List.flatMap_append

theorem findValueAfterKey_value (hkey : Unquoted (bytesOf name)) (hfront : Unquoted front)
    (hparts : ∀ part ∈ parts, Unquoted part ∧ part ≠ bytesOf name) (hvalue : Unquoted value)
    (after : List (List UInt8)) (rest : List UInt8) :
    findValueAfterKey (front ++ (quoted (parts ++ bytesOf name :: bytesOf ":" :: value :: after) ++
      quoteByte :: rest)) name = some value := by
  obtain ⟨t, ht⟩ := quoted_quote after rest
  have htext : quoted (parts ++ bytesOf name :: bytesOf ":" :: value :: after) ++
      quoteByte :: rest =
      quoted parts ++ quoteByte :: (bytesOf name ++ quoteByte :: (bytesOf ":" ++ quoteByte ::
        (value ++ quoteByte :: t))) := by
    rw [← ht, quoted_append, List.append_assoc]
    simp [quoted]
  rw [htext, findValueAfterKey_eq hkey hfront hparts]
  exact quotedValue_unquoted hvalue t

theorem findValueAfterKey_comma (hkey : Unquoted (bytesOf name)) (hfront : Unquoted front)
    (hparts : ∀ part ∈ parts, Unquoted part ∧ part ≠ bytesOf name) (after : List (List UInt8))
    (rest : List UInt8) :
    findValueAfterKey (front ++ (quoted (parts ++ bytesOf name :: bytesOf "," :: after) ++
      quoteByte :: rest)) name = none := by
  have htext : quoted (parts ++ bytesOf name :: bytesOf "," :: after) ++ quoteByte :: rest =
      quoted parts ++ quoteByte :: (bytesOf name ++ quoteByte :: (bytesOf "," ++
        (quoted after ++ quoteByte :: rest))) := by
    rw [quoted_append, List.append_assoc]
    simp [quoted]
  rw [htext, findValueAfterKey_eq hkey hfront hparts]
  rfl

def memberParts (members : List (List UInt8 × List UInt8)) : List (List UInt8) :=
  members.flatMap fun m => [m.1, bytesOf ":", m.2, bytesOf ","]

theorem memberParts_append (members rest : List (List UInt8 × List UInt8)) :
    memberParts (members ++ rest) = memberParts members ++ memberParts rest :=
  List.flatMap_append

theorem memberParts_nil : memberParts [] = [] := rfl

theorem memberParts_cons (m : List UInt8 × List UInt8) (members : List (List UInt8 × List UInt8)) :
    memberParts (m :: members) = m.1 :: bytesOf ":" :: m.2 :: bytesOf "," :: memberParts members :=
  rfl

/-- The search for a key among members passes those with another name and another value. -/
theorem memberParts_ne {members : List (List UInt8 × List UInt8)} (hcolon : bytesOf ":" ≠ key)
    (hcomma : bytesOf "," ≠ key)
    (h : ∀ m ∈ members, (Unquoted m.1 ∧ m.1 ≠ key) ∧ (Unquoted m.2 ∧ m.2 ≠ key)) :
    ∀ part ∈ memberParts members, Unquoted part ∧ part ≠ key := by
  intro part hpart
  obtain ⟨m, hm, hpart⟩ := List.mem_flatMap.mp hpart
  obtain ⟨hname, hvalue⟩ := h m hm
  simp only [List.mem_cons, List.not_mem_nil, or_false] at hpart
  rcases hpart with rfl | rfl | rfl | rfl
  · exact hname
  · exact ⟨by decide, hcolon⟩
  · exact hvalue
  · exact ⟨by decide, hcomma⟩

/-- **The value of a key** behind members with other names is found unless one of them has the key
for its value. -/
theorem findValueAfterKey_member (hkey : Unquoted (bytesOf name))
    (hcolon : bytesOf ":" ≠ bytesOf name) (hcomma : bytesOf "," ≠ bytesOf name)
    (hfront : Unquoted front) (members : List (List UInt8 × List UInt8))
    (hmembers : ∀ m ∈ members, (Unquoted m.1 ∧ m.1 ≠ bytesOf name) ∧ Unquoted m.2)
    (hvalue : Unquoted value) (after : List (List UInt8)) (rest : List UInt8) :
    findValueAfterKey
    (front ++ (quoted (memberParts members ++ bytesOf name :: bytesOf ":" :: value :: after) ++
      quoteByte :: rest)) name = if bytesOf name ∈ members.map Prod.snd then none
        else some value := by
  split_ifs with hmem
  · -- the first member that has the key for its value
    obtain ⟨before, behind, heq, hbefore⟩ := List.eq_append_cons_of_mem hmem
    obtain ⟨members₁, members₂, rfl, rfl, hmap⟩ := List.map_eq_append_iff.mp heq
    obtain ⟨m, members₂, rfl, hm, rfl⟩ := List.map_eq_cons_iff.mp hmap
    have hname := (hmembers m (List.mem_append_right _ List.mem_cons_self)).1
    have hparts : ∀ part ∈ memberParts members₁ ++ [m.1, bytesOf ":"], Unquoted part ∧
        part ≠ bytesOf name := by
      intro part hpart
      rcases List.mem_append.mp hpart with hpart | hpart
      · refine memberParts_ne hcolon hcomma (fun m hm => ?_) part hpart
        obtain ⟨hname, hvalue⟩ := hmembers m (List.mem_append_left _ hm)
        exact ⟨hname, hvalue, fun heq => hbefore (heq ▸ List.mem_map_of_mem hm)⟩
      · simp only [List.mem_cons, List.not_mem_nil, or_false] at hpart
        rcases hpart with rfl | rfl
        · exact hname
        · exact ⟨by decide, hcolon⟩
    have hnone := findValueAfterKey_comma hkey hfront hparts
      (memberParts members₂ ++ bytesOf name :: bytesOf ":" :: value :: after) rest
    rw [← hnone, memberParts_append, memberParts_cons, hm]
    simp only [List.append_assoc, List.cons_append, List.nil_append]
  · refine findValueAfterKey_value hkey hfront (memberParts_ne hcolon hcomma fun m hm =>
      ?_) hvalue after rest
    obtain ⟨hname, hvalue⟩ := hmembers m hm
    exact ⟨hname, hvalue, fun heq => hmem (heq ▸ List.mem_map_of_mem hm)⟩

end KvsWebrtc.Relay
