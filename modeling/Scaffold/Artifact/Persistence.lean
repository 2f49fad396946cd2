import Scaffold.Artifact.Imports

/-! Repositories and mappers: the shared interfaces and those of one entity. -/

namespace Scaffold.Artifact

def baseRepositoryName : String := "BaseRepository"

def entityMapperName : String := "EntityMapper"

def baseRepositoryTemplate (package : String) : Template :=
  javaTemplate .baseRepository baseRepositoryName package
    ["org.springframework.data.jpa.repository.JpaRepository",
     "org.springframework.data.jpa.repository.JpaSpecificationExecutor",
     "org.springframework.data.repository.NoRepositoryBean"]
    ("@NoRepositoryBean\npublic interface " ++ baseRepositoryName
      ++ "<E> extends JpaRepository<E, Long>, JpaSpecificationExecutor<E> \x7b\n\x7d\n")

def repositoryTemplate (e : Entity) (package : String) (base : Handle) : Template :=
  let name := e.baseName ++ "Repository"
  javaTemplate .repository name package [e.qualifiedName, base.qualifiedName]
    ("public interface " ++ name ++ " extends " ++ base.name ++ "<" ++ e.name ++ "> \x7b\n\x7d\n")

def entityMapperTemplate (package : String) : Template :=
  javaTemplate .entityMapper entityMapperName package ["java.util.List"]
    ("public interface " ++ entityMapperName ++ "<D, E> \x7b\n    E toEntity(D dto);\n\n"
      ++ "    D toDto(E entity);\n\n    List<E> toEntity(List<D> dtoList);\n\n"
      ++ "    List<D> toDto(List<E> entityList);\n\x7d\n")

def mapperTemplate (e : Entity) (package : String) (dto entityMapper : Handle) : Template :=
  let name := e.baseName ++ "Mapper"
  javaTemplate .mapper name package
    ["org.mapstruct.Mapper", e.qualifiedName, dto.qualifiedName, entityMapper.qualifiedName]
    ("@Mapper(componentModel = \"spring\")\npublic interface " ++ name ++ " extends "
      ++ entityMapper.name ++ "<" ++ dto.name ++ ", " ++ e.name ++ "> \x7b\n\x7d\n")

end Scaffold.Artifact
