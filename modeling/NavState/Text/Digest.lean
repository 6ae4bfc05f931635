namespace NavState.Text

/-!
# Digests

The digest of a text is a 64-bit word: each byte of the text in UTF-8 is mixed
into the low bits of the word, which is then multiplied by a fixed prime.
Different texts may have the same digest.
-/

/-- The digest of the empty text. -/
def digestBasis : UInt64 := 0xcbf29ce484222325

/-- The factor by which every byte spreads through the word. -/
def digestPrime : UInt64 := 0x100000001b3

/-- Mix one byte into a digest. -/
def digestByte (digest : UInt64) (byte : UInt8) : UInt64 :=
  (digest ^^^ byte.toUInt64) * digestPrime

/-- The digest of a text. -/
def digest (text : String) : UInt64 :=
  text.toUTF8.toList.foldl digestByte digestBasis

/-- The digest of several texts, each closed by a byte that no text has. -/
def digestAll (texts : List String) : UInt64 :=
  texts.foldl
    (fun digest text =>
      digestByte (text.toUTF8.toList.foldl digestByte digest) 0xff)
    digestBasis

end NavState.Text
