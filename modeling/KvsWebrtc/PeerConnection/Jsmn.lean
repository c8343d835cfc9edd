import Mathlib.Data.List.Basic
import Mathlib.Tactic.TypeStar

/-!
# The JSON tokenizer

`PeerConnection/jsmn.h`, not strict and without parent links, for an array of tokens.  A text is the
list of the characters that the parser may look at; it stops at a zero.  The characters that it has
not looked at are kept beside the position in the text.  A character from 128 on is negative in the
source.

A value of a text, each part with the place where it stands there, and the tokens that stand for it:
those of an object or an array are followed by those of its members or elements.
-/

namespace KvsWebrtc.Jsmn

/-- `jsmntype_t`. -/
inductive JsmnType
  | object
  | array
  | string
  | primitive
deriving DecidableEq

/-- `enum jsmnerr`. -/
inductive JsmnError
  | noMem
  | inval
  | part
deriving DecidableEq

/-- `jsmntok_t`, where an object or array that is not closed has no end. -/
structure JsmnToken where
  type : JsmnType
  start : Nat
  finish : Option Nat
  size : Nat
deriving DecidableEq

/-- `jsmn_parser` with its tokens, of which there are `toknext`, and the number of tokens that
fit. -/
structure JsmnParser where
  numTokens : Nat
  pos : Nat
  tokens : List JsmnToken
  toksuper : Option Nat
deriving DecidableEq

def jsmnInit (numTokens : Nat) : JsmnParser where
  numTokens := numTokens
  pos := 0
  tokens := []
  toksuper := none

namespace JsmnParser

/-- `jsmn_alloc_token` and `jsmn_fill_token`. -/
def allocToken (parser : JsmnParser) (token : JsmnToken) : Except JsmnError JsmnParser :=
  if parser.numTokens ≤ parser.tokens.length then .error .noMem
  else .ok { parser with tokens := parser.tokens ++ [token] }

def growSuper (parser : JsmnParser) : JsmnParser :=
  match parser.toksuper with
  | none => parser
  | some i => { parser with tokens := parser.tokens.modify i fun t =>
    { t with size := t.size + 1 } }

end JsmnParser

def primitiveDelimiters : List Char := [':', '\t', '\r', '\n', ' ', ',', ']', '\x7d']

/-- The loop of `jsmn_parse_primitive`: the position behind the primitive, and what stands there. -/
def parsePrimitive : List Char → Nat → Except JsmnError (Nat × List Char)
  | [], pos => .ok (pos, [])
  | c :: s, pos =>
    if c = '\x00' ∨ c ∈ primitiveDelimiters then .ok (pos, c :: s)
    else if c.toNat < 32 ∨ 127 ≤ c.toNat then .error .inval
    else parsePrimitive s (pos + 1)

/-- What may be escaped, apart from `u`. -/
def escapedSymbols : List Char := ['"', '/', '\\', 'b', 'f', 'r', 'n', 't']

def isHexDigit (c : Char) : Bool := ('0' ≤ c ∧ c ≤ '9') ∨ ('A' ≤ c ∧ c ≤ 'F') ∨ ('a' ≤ c ∧ c ≤ 'f')

/-- The loop of `jsmn_parse_string`: the position of the closing quote, and what stands behind it.
As many hexadecimal digits as the first argument says are still to come. -/
def parseString : Nat → List Char → Nat → Except JsmnError (Nat × List Char)
  | _, [], _ => .error .part
  | digits + 1, c :: s, pos =>
    if c = '\x00' then .error .part
    else if isHexDigit c then parseString digits s (pos + 1)
    else .error .inval
  | 0, c :: s, pos =>
    if c = '\x00' then .error .part
    else if c = '"' then .ok (pos, s)
    else if c = '\\' then
      match s with
      | [] => .error .part
      | e :: s =>
        if e ∈ escapedSymbols then parseString 0 s (pos + 2)
        else if e = 'u' then parseString 4 s (pos + 2)
        else .error .inval
    else parseString 0 s (pos + 1)

/-- The last token that meets `p` and has no end. -/
def lastOpen (p : JsmnToken → Bool) : List JsmnToken → Option Nat
  | [] => none
  | t :: tokens =>
    match lastOpen p tokens with
    | some i => some (i + 1)
    | none => if p t && t.finish.isNone then some 0 else none

namespace JsmnParser

def openToken (parser : JsmnParser) (type : JsmnType) : Except JsmnError JsmnParser := do
  let parser' ← parser.allocToken { type := type, start := parser.pos, finish := none, size := 0 }
  return { parser'.growSuper with toksuper := some parser.tokens.length }

def closeToken (parser : JsmnParser) (type : JsmnType) : Except JsmnError JsmnParser :=
  match lastOpen (fun _ => true) parser.tokens with
  | none => .error .inval
  | some i =>
    if (parser.tokens[i]?.map JsmnToken.type) = some type then
      let tokens := parser.tokens.modify i fun t => { t with finish := some (parser.pos + 1) }
      .ok { parser with tokens := tokens, toksuper := lastOpen (fun _ => true) tokens }
    else .error .inval

/-- A comma: the tokens that follow belong to the open object or array again. -/
def comma (parser : JsmnParser) : JsmnParser :=
  match parser.toksuper.bind (parser.tokens[·]?) with
  | none => parser
  | some t =>
    if t.type = .array ∨ t.type = .object then parser
    else
      match lastOpen (fun t => t.type = .array ∨ t.type = .object) parser.tokens with
      | none => parser
      | some i => { parser with toksuper := some i }

def colon (parser : JsmnParser) : JsmnParser :=
  { parser with
    toksuper := if parser.tokens.length = 0 then none else some (parser.tokens.length - 1) }

/-- A token from the position to `finish`, after which the parser goes on at `pos`. -/
def addToken (parser : JsmnParser) (type : JsmnType) (start finish pos : Nat) :
    Except JsmnError JsmnParser := do
  let parser ← parser.allocToken { type := type, start := start, finish := some finish, size := 0 }
  return { parser.growSuper with pos := pos }

end JsmnParser

/-- The loop of `jsmn_parse`, with a bound on its rounds, each of which passes a character at
least. -/
def parseLoop : Nat → JsmnParser → List Char → Except JsmnError JsmnParser
  | 0, parser, _ => .ok parser
  | _ + 1, parser, [] => .ok parser
  | rounds + 1, parser, c :: s =>
    if c = '\x00' then .ok parser
    else if c = '\x7b' ∨ c = '[' then do
      let parser ← parser.openToken (if c = '\x7b' then .object else .array)
      parseLoop rounds { parser with pos := parser.pos + 1 } s
    else if c = '\x7d' ∨ c = ']' then do
      let parser ← parser.closeToken (if c = '\x7d' then .object else .array)
      parseLoop rounds { parser with pos := parser.pos + 1 } s
    else if c = '"' then do
      let (finish, s) ← parseString 0 s (parser.pos + 1)
      let parser ← parser.addToken .string (parser.pos + 1) finish (finish + 1)
      parseLoop rounds parser s
    else if c = '\t' ∨ c = '\r' ∨ c = '\n' ∨ c = ' ' then
      parseLoop rounds { parser with pos := parser.pos + 1 } s
    else if c = ':' then parseLoop rounds { parser.colon with pos := parser.pos + 1 } s
    else if c = ',' then parseLoop rounds { parser.comma with pos := parser.pos + 1 } s
    else do
      let (finish, s) ← parsePrimitive (c :: s) parser.pos
      let parser ← parser.addToken .primitive parser.pos finish finish
      parseLoop rounds parser s

/-- `jsmn_parse`: the tokens of the text. -/
def jsmnParse (numTokens : Nat) (js : List Char) : Except JsmnError (List JsmnToken) := do
  let parser ← parseLoop js.length (jsmnInit numTokens) js
  if (lastOpen (fun _ => true) parser.tokens).isSome then .error .part
  else return parser.tokens

/-! ### Strings -/

def Passes (s : List Char) : Prop :=
  ∀ rest pos, parseString 0 (s ++ rest) pos = parseString 0 rest (pos + s.length)

theorem passes_nil : Passes [] := fun _ _ => rfl

theorem Passes.append {s t : List Char} (hs : Passes s) (ht : Passes t) : Passes (s ++ t) := by
  intro rest pos
  rw [List.append_assoc, hs, ht, List.length_append, Nat.add_assoc]

theorem parseString_plain {c : Char} (hzero : c ≠ '\x00') (hslash : c ≠ '\\') (s : List Char)
    (pos : Nat) :
    parseString 0 (c :: s) pos = if c = '"' then .ok (pos, s) else parseString 0 s (pos + 1) := by
  rw [parseString.eq_def]
  simp only [hzero, hslash, if_false]

/-- Characters that mean nothing inside a string. -/
theorem passes_of_plain {s : List Char} (h : ∀ c ∈ s, c ≠ '\x00' ∧ c ≠ '"' ∧ c ≠ '\\') :
    Passes s := by
  induction s with
  | nil => exact passes_nil
  | cons c s ih =>
    intro rest pos
    obtain ⟨hzero, hquote, hslash⟩ := h c List.mem_cons_self
    have hrest := ih (fun d hd => h d (List.mem_cons_of_mem c hd)) rest (pos + 1)
    have hstep : parseString 0 (c :: (s ++ rest)) pos = parseString 0 (s ++ rest) (pos + 1) := by
      rw [parseString_plain hzero hslash, if_neg hquote]
    rw [List.cons_append, hstep, hrest, List.length_cons]
    congr 1
    omega

theorem passes_escaped {e : Char} (he : e ∈ escapedSymbols) : Passes ['\\', e] := by
  intro rest pos
  simp [parseString.eq_def 0 ('\\' :: _), he]

theorem parseString_quote (rest : List Char) (pos : Nat) :
    parseString 0 ('"' :: rest) pos = .ok (pos, rest) := by
  rw [parseString_plain (by decide) (by decide), if_pos rfl]

theorem Passes.parseString_quote {s : List Char} (hs : Passes s) (rest : List Char) (pos : Nat) :
    parseString 0 (s ++ '"' :: rest) pos = .ok (pos + s.length, rest) := by
  rw [hs, Jsmn.parseString_quote]

/-! ### Rounds of the loop -/

variable {rounds : Nat} {parser : JsmnParser}

theorem parseLoop_open (hroom : parser.tokens.length < parser.numTokens) (s : List Char) :
    parseLoop (rounds + 1) parser ('\x7b' :: s)
      = parseLoop rounds
          { ({ parser with
              tokens := parser.tokens ++
                [{ type := .object, start := parser.pos, finish := none, size := 0 }] }
              : JsmnParser).growSuper with
            pos := parser.pos + 1
            toksuper := some parser.tokens.length } s := by
  have hpos : ∀ p : JsmnParser, p.growSuper.pos = p.pos := by
    intro p
    unfold JsmnParser.growSuper
    cases p.toksuper <;> rfl
  simp only [parseLoop, JsmnParser.openToken, JsmnParser.allocToken, Nat.not_le.mpr hroom, if_false]
  simp [bind, Except.bind, pure, Except.pure, hpos]

theorem parseLoop_space (s : List Char) :
    parseLoop (rounds + 1) parser (' ' :: s) = parseLoop rounds
    { parser with pos := parser.pos + 1 } s := rfl

theorem parseLoop_colon (s : List Char) :
    parseLoop (rounds + 1) parser (':' :: s)
      = parseLoop rounds { parser.colon with pos := parser.pos + 1 } s := rfl

theorem parseLoop_comma (s : List Char) :
    parseLoop (rounds + 1) parser (',' :: s)
      = parseLoop rounds { parser.comma with pos := parser.pos + 1 } s := rfl

theorem parseLoop_string (hroom : parser.tokens.length < parser.numTokens) {s : List Char}
    (hs : Passes s) (rest : List Char) :
    parseLoop (rounds + 1) parser ('"' :: (s ++ '"' :: rest))
      = parseLoop rounds
          { ({ parser with
              tokens := parser.tokens ++ [
                { type := .string
                  start := parser.pos + 1
                  finish := some (parser.pos + 1 + s.length)
                  size := 0 }] } : JsmnParser).growSuper with
            pos := parser.pos + 1 + s.length + 1 } rest := by
  simp only [parseLoop, hs.parseString_quote, JsmnParser.addToken, JsmnParser.allocToken,
    Nat.not_le.mpr hroom, if_false]
  simp [bind, Except.bind, pure, Except.pure]

theorem parseLoop_zero (rest : List Char) :
    parseLoop rounds parser ('\x00' :: rest) = .ok parser := by
  cases rounds <;> rfl

theorem parseLoop_nil : parseLoop rounds parser [] = .ok parser := by
  cases rounds <;> rfl

/-! ### JSON values as tokens -/

/-- A part of a text. -/
structure Place where
  start : Nat
  finish : Nat
deriving DecidableEq

def Place.token (p : Place) (type : JsmnType) (size : Nat) : JsmnToken :=
  ⟨type, p.start, some p.finish, size⟩

/-- A value.  A member of an object has the place of its key. -/
inductive Json
  | primitive (place : Place)
  | string (place : Place)
  | array (place : Place) (elements : List Json)
  | object (place : Place) (members : List (Place × Json))

def Json.token : Json → JsmnToken
  | .primitive place => place.token .primitive 0
  | .string place => place.token .string 0
  | .array place elements => place.token .array elements.length
  | .object place members => place.token .object members.length

mutual

def Json.inner : Json → List JsmnToken
  | .primitive _ => []
  | .string _ => []
  | .array _ elements => Json.elementTokens elements
  | .object _ members => Json.memberTokens members

def Json.elementTokens : List Json → List JsmnToken
  | [] => []
  | value :: elements => value.token :: (value.inner ++ Json.elementTokens elements)

def Json.memberTokens : List (Place × Json) → List JsmnToken
  | [] => []
  | (key, value) :: members => key.token .string 1 :: value.token :: (value.inner ++
    Json.memberTokens members)

end

def Json.tokens (value : Json) : List JsmnToken := value.token :: value.inner

def Json.members : Json → List (Place × Json)
  | .object _ members => members
  | _ => []

example : (Json.object ⟨0, 10⟩ [(⟨2, 3⟩, .array ⟨5, 7⟩ [])]).tokens =
  [⟨.object, 0, some 10, 1⟩, ⟨.string, 2, some 3, 1⟩, ⟨.array, 5, some 7, 0⟩] := by decide

end KvsWebrtc.Jsmn
