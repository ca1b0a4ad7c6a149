import FormatScan.Regex.Footprint
/-!
The states of an automaton that reads one of several words, as a tree in which words share what
they begin with.
-/

namespace FormatScan.Regex

namespace Word

/-- Groups words by their first bytes; what is left is what follows these bytes. Within a group the
order of the words stays. -/
def groups (words : List (List Nat)) : List (List (List Nat)) :=
  let sorted := words.mergeSort fun a b => a.headD 0 ≤ b.headD 0
  (sorted.splitBy fun a b => a.head? == b.head?).map fun group => group.map List.tail

/-- The words before, between and behind the places where a word ends. Words on the two sides of
such a place share nothing, because the word that ends goes first of those behind it. Words that end
before any other goes on count once. -/
def sections (words : List (List Nat)) : List (List (List Nat)) :=
  let ended := words.takeWhile List.isEmpty
  go [] (ended.take 1 ++ words.dropWhile List.isEmpty)
where
  go (current : List (List Nat)) : List (List Nat) → List (List (List Nat))
    | [] => [current.reverse]
    | word :: rest =>
      if word.isEmpty then current.reverse :: go [] rest else go (word :: current) rest

/-- The states that words lead through, up to the length `fuel` of the words. A place where no word
goes on has no state of its own. -/
def states : (fuel : Nat) → List (List Nat) → Footprint
  | 0, _ => .zero
  | fuel + 1, words =>
    match words with
    | [word] => (Footprint.zero.push 0 |>.push Footprint.branchSize).times word.length
    | _ =>
      if words.all List.isEmpty then .zero
      else
        let sections := (sections words).map groups
        let steps := sections.map fun groups =>
          match groups.length with
          | 0 => Footprint.zero
          | 1 => Footprint.zero.push 0
          | count => Footprint.zero.push (Footprint.edgeSize * count)
        let below := sections.flatten.map (states fuel)
        let branches := (sections.countP fun groups => !groups.isEmpty) + (sections.length - 1)
        ((steps ++ below).foldl Footprint.add .zero).push (Footprint.branchSize * branches)

/-- The states that read one of several words, the one behind all of them included. -/
def footprint (words : List (List Nat)) : Footprint :=
  (states (words.foldl (fun n word => max n word.length) 0 + 1) words).push 0

end Word

end FormatScan.Regex
