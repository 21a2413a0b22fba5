import PropertyGraph.Text.Alphabetic
import PropertyGraph.Text.CaseFold

/-!
# Changes of case

The characters that differ from what they become in another case, in Unicode 16. Some become several
characters and so have no simple folding.

## Main definitions

- `CharSet.foldable`, `CharSet.caseVariants` — what folds simply, and that with what it folds to
- `CharSet.changedByFolding`, `changedByLowering`, `changedByRaising`, `changedByTitling`,
  `changedByCase` — the characters that change
- `CharSet.caseIgnorable` — what is passed over in the search for cased characters
-/

namespace PropertyGraph

/-- What folds to another character. -/
def CharSet.foldable : CharSet := .ofRanges (foldPairs.map fun p => (p.1, p.1))

/-- What folds to another character, and what others fold to. -/
def CharSet.caseVariants : CharSet :=
  .ofRanges (foldPairs.flatMap fun p => [(p.1, p.1), (p.2, p.2)])

/-- Characters that fold to several. -/
def CharSet.foldedToMany : CharSet :=
  ⟨[(0xDF, 0xDF), (0x130, 0x130), (0x149, 0x149), (0x587, 0x587), (0x1E9A, 0x1E9A),
   (0x1F80, 0x1F87), (0x1F90, 0x1F97), (0x1FA0, 0x1FA7), (0x1FB2, 0x1FB4), (0x1FB7, 0x1FB7),
   (0x1FC2, 0x1FC4), (0x1FC7, 0x1FC7), (0x1FF2, 0x1FF4), (0x1FF7, 0x1FF7), (0xFB00, 0xFB04),
   (0xFB06, 0xFB06), (0xFB13, 0xFB17)]⟩

/-- What folding changes; of three small letters the folded form decomposes in the same way. -/
def CharSet.changedByFolding : CharSet :=
  (CharSet.foldable.diff (.ofRanges [(0x1FBE, 0x1FBE), (0x1FD3, 0x1FD3), (0x1FE3, 0x1FE3)])).union
    CharSet.foldedToMany

/-- What becomes small letters; Cherokee capitals do, and fold to themselves. -/
def CharSet.changedByLowering : CharSet :=
  (CharSet.foldable.inter (CharSet.uppercase.union ⟨titlecaseLetterRanges⟩)).union
    (.ofRanges [(0x130, 0x130), (0x13A0, 0x13F5)])

/-- Characters that become others in another case, besides the case variants. -/
def CharSet.mappedToMany : CharSet :=
  ⟨[(0x130, 0x131), (0x149, 0x149), (0x1F0, 0x1F0), (0x587, 0x587), (0x1E96, 0x1E9A),
   (0x1F50, 0x1F50), (0x1F52, 0x1F52), (0x1F54, 0x1F54), (0x1F56, 0x1F56), (0x1FB2, 0x1FB2),
   (0x1FB4, 0x1FB4), (0x1FB6, 0x1FB7), (0x1FC2, 0x1FC2), (0x1FC4, 0x1FC4), (0x1FC6, 0x1FC7),
   (0x1FD2, 0x1FD2), (0x1FD6, 0x1FD7), (0x1FE2, 0x1FE2), (0x1FE4, 0x1FE4), (0x1FE6, 0x1FE7),
   (0x1FF2, 0x1FF2), (0x1FF4, 0x1FF4), (0x1FF6, 0x1FF7), (0xFB00, 0xFB04), (0xFB13, 0xFB17)]⟩

/-- What becomes others in some case. -/
def CharSet.changedByCase : CharSet := CharSet.caseVariants.union CharSet.mappedToMany

/-- What becomes capital letters. -/
def CharSet.changedByRaising : CharSet :=
  (CharSet.changedByCase.diff CharSet.uppercase).diff (.range 0x130 0x130)

/-- What becomes others at the start of a word: no letters of Georgian, and the capital digraphs. -/
def CharSet.changedByTitling : CharSet :=
  let kept : CharSet := .ofRanges (titlecaseLetterRanges ++ [(0x10D0, 0x10FA), (0x10FD, 0x10FF)])
  (CharSet.changedByRaising.diff kept).union
    (.ofRanges [(0x1C4, 0x1C4), (0x1C7, 0x1C7), (0x1CA, 0x1CA), (0x1F1, 0x1F1)])

/-- Punctuation that stands inside words. -/
def CharSet.insideWords : CharSet :=
  ⟨[(0x27, 0x27), (0x2E, 0x2E), (0x3A, 0x3A), (0xB7, 0xB7), (0x387, 0x387), (0x55F, 0x55F),
   (0x5F4, 0x5F4), (0x2018, 0x2019), (0x2024, 0x2024), (0x2027, 0x2027), (0xFE13, 0xFE13),
   (0xFE52, 0xFE52), (0xFE55, 0xFE55), (0xFF07, 0xFF07), (0xFF0E, 0xFF0E), (0xFF1A, 0xFF1A)]⟩

/-- What is passed over in the search for cased characters. -/
def CharSet.caseIgnorable : CharSet :=
  (CharSet.ofCategories [.nonspacingMark, .enclosingMark, .format, .modifierLetter, .modifierSymbol]).union
    CharSet.insideWords

end PropertyGraph
