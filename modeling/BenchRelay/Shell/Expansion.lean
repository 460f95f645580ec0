import BenchRelay.Shell.Field
import BenchRelay.Shell.Variable

/-!
# Expanding words

A word is expanded from left to right: parameters, the output of commands and expressions are
replaced by their values, and a tilde by a home directory. What a word then comes to depends on what
it is for: fields, which are cut, fitted to paths and freed of their marks, a pattern or a text. How
commands are run is left open; `substitute` gives what a command prints.
-/

namespace BenchRelay.Shell

/-- What an expanded word is for, and where it stands. -/
structure Manner where
  /-- Whether it comes to fields. -/
  toFields : Bool := false
  /-- Whether it stands within double quotes. -/
  quoted : Bool := false
  /-- Whether it stands for a parameter, so that its own text is cut too. -/
  isSubstitute : Bool := false
  /-- Whether a tilde behind a colon stands for a home directory. -/
  isAssigned : Bool := false

/-- Where expanding a word is. -/
structure Cursor where
  inQuotes : Bool := false
  /-- Whether a tilde here stands for a home directory. -/
  atTilde : Bool := false
  /-- How many characters belong to a home directory that was put in already. -/
  skip : Nat := 0

/-- The pieces of a word so far. -/
structure Gathering where
  /-- The pieces that are done, the last one first. -/
  done : List Piece := []
  /-- The piece at hand, its last glyph first, and whether it is cut. -/
  current : List Glyph := []
  isCut : Bool := false

namespace Gathering

/-- End the piece at hand. -/
def close (gathering : Gathering) : Gathering :=
  match gathering.current with
  | [] => gathering
  | current =>
    let piece : Piece :=
      { glyphs := current.reverse, cut := if gathering.isCut then .atSeparators else .never }
    { gathering with done := piece :: gathering.done, current := [] }

/-- Add a glyph of the word itself, in a piece that is cut or not. -/
def push (gathering : Gathering) (glyph : Glyph) (isCut : Bool) : Gathering :=
  let gathering := if gathering.isCut = isCut then gathering else { gathering.close with isCut }
  { gathering with current := glyph :: gathering.current }

/-- Add glyphs that are not cut. -/
def keep (gathering : Gathering) (glyphs : List Glyph) : Gathering :=
  glyphs.foldl (push · · false) gathering

/-- Add pieces. -/
def add (gathering : Gathering) (pieces : Expanded) : Gathering :=
  let gathering := gathering.close
  { gathering with done := pieces.reverse ++ gathering.done }

/-- All pieces. -/
def expanded (gathering : Gathering) : Expanded := gathering.close.done.reverse

end Gathering

/-- The home directory of a user; that of nobody in particular is a value. -/
def homeOf? (value? : Option Text) (user : Text) : Option Text :=
  if user.isEmpty then value? else if user = "root".toList then some "/root".toList else none

/-- The name of a user at the start of a word behind a tilde. -/
def userAt? (isAssigned : Bool) : Word → Option Text
  | [] => some []
  | .char c false :: rest =>
    if c = '/' || (c = ':' && isAssigned) then some []
    else (userAt? isAssigned rest).map (c :: ·)
  | _ => none

namespace Action

/-- The wording of the error that a parameter has no value. -/
def unsetMessage (name : Text) : Text := name ++ ": parameter not set".toList

/-- Stop if parameters without a value are an error. -/
def checkUnset (name : Text) : Action Unit := do
  if ← isSet 'u' then raise (unsetMessage name)

/-- The character that stands between positional parameters in one text. -/
def parameterSeparator (toFields quoted : Bool) (name : Text) : Action Text := do
  if toFields && (!quoted || name = ['@']) then return [parameterEnd]
  return (← fromMemory Memory.separators).take 1

/-- The value of a parameter as it is put into a word. -/
def parameterGlyphs? (toFields quoted : Bool) (name : Text) : Action (Option (List Glyph)) := do
  let value? ←
    if name = ['@'] || name = ['*'] then
      some <$> joined (← parameterSeparator toFields quoted name)
    else parameter? name
  return value?.map fun value => value.map fun c =>
    .char c (quoted && (c = '\\' || patternChars.contains c))

/-- The piece that the value of a parameter is. -/
def parameterPiece (quoted : Bool) (name : Text) (glyphs : List Glyph) : Action Expanded := do
  let isEmpty := (← fromMemory Memory.positional).isEmpty
  let cut : Cut :=
    if !quoted then .atSeparators
    else if name.head? = some '@' && !isEmpty then .betweenParameters
    else .never
  return [{ glyphs, cut }]

/-- The piece that a value of the shell is. -/
def valuePiece (quoted : Bool) (value : Text) : Piece :=
  { glyphs := value.map fun c => .char c (quoted && patternChars.contains c)
    cut := if quoted then .never else .atSeparators }

/-- The value of an expression. -/
def arithmeticValue (expression : Text) : Action Text := do
  let memory ← fromMemory id
  let known : Variables :=
    { value? := memory.value?
      isReadOnly := fun name => ((memory.entry? name).map Variable.readOnly).getD false }
  let (value, assigned) := calculate known expression
  for (name, text) in assigned do giveValue name text
  match value with
  | .ok n => return integerText n.toInt
  | .error .overflow => throw (.gone (.signal 8))
  | .error error => raise (error.message expression)

/-- The home directory of a user, if there is one, and the length of the name. -/
def homeWith? (user? : Option Text) : Action (Option (Text × Nat)) := do
  match user? with
  | none => return none
  | some user =>
    return (homeOf? (← valueOf "HOME".toList) user).map fun home => (home, user.length)

/-- What a command printed, as it is put into a word. -/
def outputText (text : Text) : Text :=
  ((text.filter (· ≠ '\x00')).reverse.dropWhile (· == '\n')).reverse

/-- What to go on with behind a value that counts as none. -/
def present? (emptyToo : Bool) (value? : Option (List Glyph)) : Option (List Glyph) :=
  value?.filter fun value => !emptyToo || !value.isEmpty

mutual

/-- Expand a word from a cursor on, behind the pieces so far. -/
def expandFrom (substitute : Command → Action Text) (manner : Manner) (cursor : Cursor)
    (gathering : Gathering) : Word → Action Expanded
  | [] => return gathering.expanded
  | .mark :: .parameter name use word :: .mark :: rest => do
    if !cursor.inQuotes && name = ['@'] && use = .value then
      let value ← expandParameter substitute { manner with quoted := true } name use word
      expandFrom substitute manner {} (gathering.add value) rest
    else
      let quoted := manner.quoted || !cursor.inQuotes
      let value ← expandParameter substitute { manner with quoted } name use word
      let gathering := ((gathering.keep [.mark]).add value).keep [.mark]
      expandFrom substitute manner { inQuotes := cursor.inQuotes } gathering rest
  | .mark :: rest =>
    expandFrom substitute manner { inQuotes := !cursor.inQuotes } (gathering.keep [.mark]) rest
  | .char c escaped :: rest => do
    if cursor.skip > 0 then
      expandFrom substitute manner { cursor with skip := cursor.skip - 1 } gathering rest
    else
      let user? := if cursor.atTilde && c = '~' && !escaped then userAt? manner.isAssigned rest
        else none
      match ← homeWith? user? with
      | some (home, skip) =>
        let gathering := gathering.keep (glyphs home true)
        expandFrom substitute manner { cursor with atTilde := false, skip } gathering rest
      | none =>
        let atTilde := manner.isAssigned && c = ':' && !escaped
        let isCut := manner.isSubstitute && !manner.quoted && !cursor.inQuotes && !escaped
        expandFrom substitute manner { cursor with atTilde }
          (gathering.push (.char c escaped) isCut) rest
  | .parameter name use word :: rest => do
    let quoted := manner.quoted || cursor.inQuotes
    let value ← expandParameter substitute { manner with quoted } name use word
    expandFrom substitute manner { inQuotes := cursor.inQuotes } (gathering.add value) rest
  | .output body :: rest => do
    let text := outputText (← substitute body)
    let value := valuePiece (manner.quoted || cursor.inQuotes) text
    expandFrom substitute manner { inQuotes := cursor.inQuotes } (gathering.add [value]) rest
  | .arithmetic expression :: rest => do
    let text := (← expandFrom substitute {} {} {} expression).text
    let value := valuePiece (manner.quoted || cursor.inQuotes) (← arithmeticValue text)
    expandFrom substitute manner { inQuotes := cursor.inQuotes } (gathering.add [value]) rest

/-- Expand a parameter. -/
def expandParameter (substitute : Command → Action Text) (manner : Manner) (name : Text) (use : Use)
    (word : Word) : Action Expanded := do
  let countsOnly := match use with
    | .length | .ifPresent _ => true
    | _ => false
  let value? ← parameterGlyphs? (manner.toFields && !countsOnly) manner.quoted name
  let inItsPlace : Action Expanded :=
    expandFrom substitute { manner with isSubstitute := true } { atTilde := true } {} word
  let wordText : Action Text := do
    return (← expandFrom substitute {} { atTilde := true } {} word).text
  match use with
  | .malformed => raise "Bad substitution".toList
  | .orElse emptyToo =>
    match present? emptyToo value? with
    | some value => parameterPiece manner.quoted name value
    | none => inItsPlace
  | .ifPresent emptyToo => if (present? emptyToo value?).isSome then inItsPlace else return []
  | .assign emptyToo =>
    match present? emptyToo value? with
    | some value => parameterPiece manner.quoted name value
    | none =>
      assignNamed name (some (← wordText)) {}
      let value? ← parameterGlyphs? manner.toFields manner.quoted name
      parameterPiece manner.quoted name (value?.getD [])
  | .demand emptyToo =>
    match present? emptyToo value? with
    | some value => parameterPiece manner.quoted name value
    | none =>
      if word.isEmpty then
        raise (unsetMessage name ++ if emptyToo then " or null".toList else [])
      else raise (name ++ ": ".toList ++ (← wordText))
  | .length =>
    if value?.isNone then checkUnset name
    let length := Text.decimal (value?.getD []).length
    parameterPiece manner.quoted name (glyphs length false)
  | .value =>
    match value? with
    | some value => parameterPiece manner.quoted name value
    | none =>
      checkUnset name
      return []
  | .trim fromEnd longest =>
    match value? with
    | some value =>
      let pattern ← expandFrom substitute {} { atTilde := true } {} word
      parameterPiece manner.quoted name
        (Glob.trim fromEnd longest (Glob.ofGlyphs pattern.glyphs) value)
    | none =>
      checkUnset name
      return []

end

/-- The paths that a field stands for, or its text. -/
def pathsOf (field : List Glyph) : Action (List Text) := do
  if ← isSet 'f' then return [textOf field]
  let pattern := Glob.ofGlyphs field
  if !Glob.isPattern pattern then return [textOf field]
  let paths := Glob.paths (← files) pattern
  return if paths.isEmpty then [textOf field] else paths

/-- Expand a word to fields. -/
def expandToFields (substitute : Command → Action Text) (word : Word) : Action (List Text) := do
  let expanded ← expandFrom substitute { toFields := true } { atTilde := true } {} word
  let fields := splitFields (← fromMemory Memory.separators) none expanded
  return (← fields.mapM pathsOf).flatten

/-- Expand a word to a text. -/
def expandToText (substitute : Command → Action Text) (word : Word) : Action Text := do
  return (← expandFrom substitute {} { atTilde := true } {} word).text

/-- Expand the value of an assignment. -/
def expandAssigned (substitute : Command → Action Text) (word : Word) : Action Text := do
  return (← expandFrom substitute { isAssigned := true } { atTilde := true } {} word).text

/-- Expand a word that a command is given which takes assignments. -/
def expandDeclared (substitute : Command → Action Text) (word : Word) : Action (List Text) := do
  match assignmentOf? word with
  | some (name, value) => return [name ++ '=' :: (← expandAssigned substitute value)]
  | none => expandToFields substitute word

/-- Expand a word to a pattern. -/
def expandToPattern (substitute : Command → Action Text) (word : Word) : Action Text := do
  return Glob.ofGlyphs (← expandFrom substitute {} { atTilde := true } {} word).glyphs

/-- Expand a text within a script. -/
def expandQuoted (substitute : Command → Action Text) (word : Word) : Action Text := do
  return (← expandFrom substitute { quoted := true } {} {} word).text

end Action

end BenchRelay.Shell
