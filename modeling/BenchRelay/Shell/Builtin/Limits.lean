import BenchRelay.Shell.Builtin.Options

/-!
# Commands about limits

The permissions that new files do not get, what a shell may use and how much time it took.
-/

namespace BenchRelay.Shell.Builtin

open Shell.Action

/-- Permissions as letters. -/
def permissionLetters (bits : Nat) : Text :=
  (if bits.testBit 2 then ['r'] else []) ++ (if bits.testBit 1 then ['w'] else []) ++
    (if bits.testBit 0 then ['x'] else [])

/-- The permissions that new files get, in words. -/
def maskInWords (mask : Nat) : Text :=
  let granted := 511 - mask
  "u=".toList ++ permissionLetters (granted / 64) ++ ",g=".toList ++
    permissionLetters (granted / 8 % 8) ++ ",o=".toList ++ permissionLetters (granted % 8)

/-- The bits that letters for users stand for. -/
def userBits (letters : Text) : Nat :=
  let bits (c : Char) : Nat :=
    match c with
    | 'u' => 448
    | 'g' => 56
    | 'o' => 7
    | _ => 511
  if letters.isEmpty then 511 else letters.foldl (fun sum c => sum ||| bits c) 0

/-- The bits that letters for permissions stand for, the same for all users. -/
def permissionBits (letters : Text) : Nat :=
  let bits (c : Char) : Nat :=
    match c with
    | 'r' => 292
    | 'w' => 146
    | _ => 73
  letters.foldl (fun sum c => sum ||| bits c) 0

/-- Change granted permissions by clauses with a sign each. -/
def granted? (granted : Nat) : (clauses : List Text) → Option Nat
  | [] => some granted
  | clause :: clauses =>
    let users := clause.takeWhile ("ugoa".toList.contains ·)
    match clause.dropWhile ("ugoa".toList.contains ·) with
    | sign :: letters =>
      if letters.all ("rwxXst".toList.contains ·) then
        let here := userBits users
        let bits := here &&& permissionBits (letters.filter ("rwxX".toList.contains ·))
        match sign with
        | '+' => granted? (granted ||| bits) clauses
        | '-' => granted? (granted &&& (511 - bits)) clauses
        | '=' => granted? ((granted &&& (511 - here)) ||| bits) clauses
        | _ => none
      else none
    | [] => none

/-- Set the permissions that new files do not get, or print them. -/
def umask (arguments : List Text) : Action Nat := do
  let chosen ← options "S" arguments
  let mask ← fromMemory Memory.mask
  match chosen.arguments with
  | [] =>
    let digits := Nat.toDigits 8 mask
    print ((if chosen.has 'S' then maskInWords mask
      else List.replicate (4 - digits.length) '0' ++ digits) ++ ['\n'])
    return 0
  | argument :: _ =>
    match argument with
    | [] => return 0
    | c :: _ =>
      if c.isDigit then
        unless argument.all fun c => '0' ≤ c && c ≤ '7' do raiseIllegalNumber argument
        change fun memory => { memory with mask := ofDigits 8 argument % 512 }
      else
        match granted? (511 - mask) (argument.splitOn ',') with
        | some granted => change fun memory => { memory with mask := 511 - granted }
        | none => raise ("Illegal mode: ".toList ++ argument)
      return 0

/-- What a shell may use, by the letters of the options that ask for it. -/
def limits : List (String × Char × String) :=
  [("time(seconds)", 't', "unlimited"), ("file(blocks)", 'f', "unlimited"),
    ("data(kbytes)", 'd', "unlimited"), ("stack(kbytes)", 's', "8192"),
    ("coredump(blocks)", 'c', "0"), ("memory(kbytes)", 'm', "unlimited"),
    ("locked memory(kbytes)", 'l', "unlimited"), ("process", 'p', "unlimited"),
    ("nofiles", 'n', "1024"), ("vmemory(kbytes)", 'v', "unlimited"), ("locks", 'w', "unlimited"),
    ("rtprio", 'r', "0")]

/-- Print what a shell may use. -/
def ulimit (arguments : List Text) : Action Nat := do
  let chosen ← options "HSatfdscmlpnvwr" arguments
  let letter := ((chosen.letters.map Prod.fst).filter fun c => c ≠ 'H' && c ≠ 'S').getLast?
  match letter, chosen.arguments with
  | some 'a', [] =>
    for (name, _, value) in limits do
      print (name.toList ++ List.replicate (20 - name.length) ' ' ++ ' ' :: value.toList ++ ['\n'])
    return 0
  | some 'a', _ => raise "too many arguments".toList
  | letter, [] =>
    let value? := limits.find? fun (_, c, _) => c = letter.getD 'f'
    print ((value?.map fun (_, _, value) => value.toList).getD [] ++ ['\n'])
    return 0
  | _, [argument] =>
    unless argument = "unlimited".toList || argument.all Char.isDigit do raise "bad number".toList
    return 0
  | _, _ => raise "too many arguments".toList

/-- Print how much time the shell and its commands took: none worth telling. -/
def times : Action Nat := do
  let line := "0m0.000000s 0m0.000000s\n".toList
  print (line ++ line)
  return 0

end BenchRelay.Shell.Builtin
