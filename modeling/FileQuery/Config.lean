/-!
Settings of a search.
-/

namespace FileQuery

/-- The settings that a configuration file can change: the greatest size of a document in bytes, how
many bytes of content are read at once, whether entries whose names start with a point are visited,
whether directories behind links are entered, and the level of messages. -/
structure Config where
  maxDocumentSize : Int := 10 * 1024 * 1024
  chunkSize : Int := 64 * 1024
  includeHidden : Bool := false
  followSymlinks : Bool := false
  logLevel : String := "WARNING"
deriving DecidableEq, Repr

end FileQuery
