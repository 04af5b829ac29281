import ResourceScaffold.Code.Basic

/-!
# Service modules

The service of a resource passes every operation on to a repository.
-/

namespace ResourceScaffold

open Code

/-- The name of the service class of an entity. -/
def serviceClass (entityType : String) : String :=
  entityType ++ "Service"

/-- The operations of a service, as methods. -/
def serviceMethods : List (List String) :=
  [["def __init__(self, repository: Any = None):",
    "    self.repository = repository"],
   ["async def count(self, where: Optional[Dict[str, Any]] = None) -> int:",
    "    return await self.repository.count(self.model, where=where or \x7b\x7d)"],
   ["async def find_many(",
    "    self,",
    "    where: Optional[Dict[str, Any]] = None,",
    "    skip: int = 0,",
    "    take: Optional[int] = None,",
    "    select: Optional[Dict[str, Any]] = None,",
    ") -> List[Dict[str, Any]]:",
    "    return await self.repository.find_many(",
    "        self.model, where=where or \x7b\x7d, skip=skip, take=take, select=select",
    "    )"],
   ["async def find_one(",
    "    self, where: Dict[str, Any], select: Optional[Dict[str, Any]] = None",
    ") -> Optional[Dict[str, Any]]:",
    "    return await self.repository.find_one(self.model, where=where, select=select)"],
   ["async def create(",
    "    self, data: Dict[str, Any], select: Optional[Dict[str, Any]] = None",
    ") -> Dict[str, Any]:",
    "    return await self.repository.create(self.model, data=data, select=select)"],
   ["async def update(",
    "    self, where: Dict[str, Any], data: Dict[str, Any], select: Optional[Dict[str, Any]] = None",
    ") -> Optional[Dict[str, Any]]:",
    "    return await self.repository.update(self.model, where=where, data=data, select=select)"],
   ["async def delete(self, where: Dict[str, Any]) -> Optional[Dict[str, Any]]:",
    "    return await self.repository.delete(self.model, where=where)"],
   ["async def find_related(",
    "    self, where: Dict[str, Any], field: str, select: Optional[Dict[str, Any]] = None",
    ") -> Any:",
    "    return await self.repository.find_related(self.model, where=where, field=field, select=select)"],
   ["async def connect(self, where: Dict[str, Any], field: str, targets: List[Dict[str, Any]]) -> None:",
    "    await self.repository.connect(self.model, where=where, field=field, targets=targets)"],
   ["async def disconnect(self, where: Dict[str, Any], field: str, targets: List[Dict[str, Any]]) -> None:",
    "    await self.repository.disconnect(self.model, where=where, field=field, targets=targets)"]]

/-- The module of the service of an entity. -/
def serviceModule (entityName entityType : String) : SourceModule :=
  { path := servicePath entityName
    body :=
      [.importNames { origin := .library "typing", names := ["Any", "Dict", "List", "Optional"] },
       .blank,
       .blank,
       .define {
         name := serviceClass entityType
         bases := []
         members :=
           [.documentation ("Data access for " ++ entityType ++ " records."),
            .blank,
            .constant "model" ("\"" ++ entityType ++ "\"")] ++
           serviceMethods.flatMap fun lines => [.blank, .method lines] }] }

end ResourceScaffold
