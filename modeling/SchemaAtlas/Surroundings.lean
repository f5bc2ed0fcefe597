/-!
What the program is given by its surroundings: the time that documents show, and a drawing program
for images, if there is one.
-/
namespace SchemaAtlas

/-- An image to be drawn: where it goes without the ending that its format adds, and whether it is
shown at once. -/
structure ImageJob where
  path : String
  format : String
  view : Bool
deriving DecidableEq, Repr

/-- A drawing program answers where it put the image. -/
structure Surroundings where
  generated : String
  drawImage? : Option (ImageJob → String)

def Surroundings.drawsImages (surroundings : Surroundings) : Bool :=
  surroundings.drawImage?.isSome

end SchemaAtlas
